import OutlineSearch.Outline.Tree
import OutlineSearch.Proofs.Json.Numbers

/-!
# The places of blocks

A block of an outline has a place: the numbers of the blocks that lead to it, with points between
them. No two blocks of an outline have the same place. A block that has no identity of its own gets
one from the name of its page and its place.
-/

namespace OutlineSearch

open OutlineSearch.Text OutlineSearch.Outline

namespace Block

mutual

/-- A block at a place and the blocks under it with theirs, in the order of the text. -/
def placedAt (position : String) : Block → List (String × Block)
  | b@(mk _ _ _ _ _ children _ _) => (position, b) :: placedUnder position 0 children

/-- Some blocks under a place, numbered from `index` on, and all blocks under them. -/
def placedUnder (above : String) (index : Nat) : List Block → List (String × Block)
  | [] => []
  | b :: rest => placedAt (place above index) b ++ placedUnder above (index + 1) rest

end

/-- The blocks of an outline with their places. -/
def placed (blocks : List Block) : List (String × Block) := placedUnder "" 0 blocks

end Block

namespace Outline

open Block

/-! ### Places -/

/-- What stands in front of the number of a node under a place. -/
def lead (above : String) : List Char := if above.isEmpty then [] else above.toList ++ ['.']

theorem toList_place (above : String) (index : Nat) :
    (place above index).toList = lead above ++ Nat.toDigits 10 index := by
  rw [place, lead]
  split
  · change (Nat.repr index).toList = _
    simp [Nat.repr]
  · change (above ++ "." ++ toString index).toList = _
    simp

theorem place_isEmpty (above : String) (index : Nat) : (place above index).isEmpty = false := by
  rw [String.isEmpty_eq_false_iff]
  intro h
  have hnil := congrArg String.toList h
  rw [toList_place] at hnil
  exact List.append_ne_nil_of_right_ne_nil _ Nat.toDigits_ne_nil hnil

/-- A text is a place or leads to one under it. -/
def Within (position s : String) : Prop :=
  ∃ rest, s.toList = position.toList ++ rest ∧ ∀ c, rest.head? = some c → c = '.'

theorem Within.refl (position : String) : Within position position :=
  ⟨[], (List.append_nil _).symm, fun _ h ↦ by cases h⟩

/-- What is within a node under a place is within the place, and is not the place itself. -/
theorem Within.of_place {above s : String} {index : Nat} (habove : above.isEmpty = false)
    (h : Within (place above index) s) : Within above s ∧ s ≠ above := by
  obtain ⟨rest, hs, -⟩ := h
  rw [toList_place, lead, if_neg (by simp [habove]), List.append_assoc, List.append_assoc] at hs
  refine ⟨⟨_, hs, fun c hc ↦ ?_⟩, ?_⟩
  · rw [List.singleton_append, List.head?_cons] at hc
    exact (Option.some.inj hc).symm
  · rintro rfl
    simp at hs

/-- Nodes of different numbers have nothing within them in common. -/
theorem Within.index_eq {above s : String} {i j : Nat} (hi : Within (place above i) s)
    (hj : Within (place above j) s) : i = j := by
  obtain ⟨rest, hs, hrest⟩ := hi
  obtain ⟨rest', hs', hrest'⟩ := hj
  rw [toList_place, List.append_assoc] at hs hs'
  have hdigits := List.append_cancel_left (hs.symm.trans hs')
  have hpoint {rest : List Char} (h : ∀ c, rest.head? = some c → c = '.') :
      ∀ c, rest.head? = some c → c.isDigit = false := fun c hc ↦ by
    rw [h c hc]
    rfl
  have hspan := congrArg Json.spanPlain hdigits
  rw [Json.spanPlain_append (Json.isDigit_toDigits i) (hpoint hrest),
    Json.spanPlain_append (Json.isDigit_toDigits j) (hpoint hrest'), Prod.mk.injEq] at hspan
  rw [← Number.spelled_toDigits i, hspan.1, Number.spelled_toDigits]

/-- No slash stands in the place of a node under a place without one. -/
theorem slash_not_mem_place {above : String} (h : '/' ∉ above.toList) (index : Nat) :
    '/' ∉ (place above index).toList := by
  rw [toList_place, List.mem_append, not_or]
  refine ⟨?_, fun hmem ↦ absurd (Json.isDigit_toDigits index _ hmem) (by decide)⟩
  rw [lead]
  split
  · exact List.not_mem_nil
  · simp [h]

/-! ### The places of the blocks of an outline -/

mutual

theorem within_of_mem_placedAt (position : String) (hposition : position.isEmpty = false) :
    (b : Block) → ∀ entry ∈ placedAt position b, Within position entry.1
  | .mk _ _ _ _ _ children _ _ => by
    intro entry h
    rw [placedAt, List.mem_cons] at h
    rcases h with rfl | h
    · exact .refl position
    · obtain ⟨i, -, hwithin⟩ := within_of_mem_placedUnder position 0 children entry h
      exact (hwithin.of_place hposition).1

/-- The blocks under a place are within its nodes from the number on. -/
theorem within_of_mem_placedUnder (above : String) (index : Nat) :
    (blocks : List Block) → ∀ entry ∈ placedUnder above index blocks,
      ∃ i ≥ index, Within (place above i) entry.1
  | [] => by
    intro entry h
    cases h
  | b :: rest => by
    intro entry h
    rw [placedUnder, List.mem_append] at h
    rcases h with h | h
    · exact ⟨index, Nat.le_refl _,
        within_of_mem_placedAt (place above index) (place_isEmpty above index) b entry h⟩
    · obtain ⟨i, hi, hwithin⟩ := within_of_mem_placedUnder above (index + 1) rest entry h
      exact ⟨i, Nat.le_of_succ_le hi, hwithin⟩

end

mutual

theorem nodup_placedAt (position : String) (hposition : position.isEmpty = false) :
    (b : Block) → ((placedAt position b).map (·.1)).Nodup
  | .mk _ _ _ _ _ children _ _ => by
    rw [placedAt, List.map_cons, List.nodup_cons]
    refine ⟨fun h ↦ ?_, nodup_placedUnder position 0 children⟩
    obtain ⟨entry, hmem, hentry⟩ := List.mem_map.1 h
    obtain ⟨i, -, hwithin⟩ := within_of_mem_placedUnder position 0 children entry hmem
    exact (hwithin.of_place hposition).2 hentry

/-- No two blocks under a place have the same place. -/
theorem nodup_placedUnder (above : String) (index : Nat) :
    (blocks : List Block) → ((placedUnder above index blocks).map (·.1)).Nodup
  | [] => List.nodup_nil
  | b :: rest => by
    rw [placedUnder, List.map_append, List.nodup_append]
    refine ⟨nodup_placedAt (place above index) (place_isEmpty above index) b,
      nodup_placedUnder above (index + 1) rest, ?_⟩
    intro s hs s' hs' heq
    obtain ⟨entry, hentry, rfl⟩ := List.mem_map.1 hs
    obtain ⟨entry', hentry', rfl⟩ := List.mem_map.1 hs'
    have hfirst := within_of_mem_placedAt _ (place_isEmpty above index) b entry hentry
    obtain ⟨i, hi, hlater⟩ := within_of_mem_placedUnder above (index + 1) rest entry' hentry'
    rw [heq] at hfirst
    have := hfirst.index_eq hlater
    omega

end

mutual

theorem slash_not_mem_placedAt (position : String) (hposition : '/' ∉ position.toList) :
    (b : Block) → ∀ entry ∈ placedAt position b, '/' ∉ entry.1.toList
  | .mk _ _ _ _ _ children _ _ => by
    intro entry h
    rw [placedAt, List.mem_cons] at h
    rcases h with rfl | h
    · exact hposition
    · exact slash_not_mem_placedUnder position 0 hposition children entry h

/-- No slash stands in the place of a block. -/
theorem slash_not_mem_placedUnder (above : String) (index : Nat) (habove : '/' ∉ above.toList) :
    (blocks : List Block) → ∀ entry ∈ placedUnder above index blocks, '/' ∉ entry.1.toList
  | [] => by
    intro entry h
    cases h
  | b :: rest => by
    intro entry h
    rw [placedUnder, List.mem_append] at h
    rcases h with h | h
    · exact slash_not_mem_placedAt _ (slash_not_mem_place habove index) b entry h
    · exact slash_not_mem_placedUnder above (index + 1) habove rest entry h

end

/-! ### The identities of the blocks of an outline -/

theorem Item.identity_of_none {x : Item} (h : x.properties.get? "id" = none)
    (page position : String) : x.identity page position = Digest.stableId [lowered page, position] := by
  rw [Item.identity, h]

/-- Blocks of nodes without an identity of their own have the identity of their page and place. -/
theorem uuid_of_mem_placedUnder (page : String) (parent : Option String) (above : String)
    (index : Nat) (items : List Item) (h : ∀ x ∈ items, x.properties.get? "id" = none) :
    ∀ entry ∈ placedUnder above index (blocksUnder page parent above index items),
      entry.2.uuid = Digest.stableId [lowered page, entry.1] := by
  fun_induction blocksUnder page parent above index items with
  | case1 => intro entry hentry; cases hentry
  | case2 parent above index x rest position uuid ihUnder ihRest =>
    obtain ⟨hx, hrest⟩ := List.forall_mem_cons.1 h
    intro entry hentry
    rw [placedUnder, List.mem_append, placedAt, List.mem_cons] at hentry
    rcases hentry with (rfl | hentry) | hentry
    · exact Item.identity_of_none hx page position
    · exact ihUnder (fun y hy ↦ hrest y ((List.takeWhile_sublist _).mem hy)) entry hentry
    · exact ihRest (fun y hy ↦ hrest y ((List.dropWhile_sublist _).mem hy)) entry hentry

end Outline

end OutlineSearch
