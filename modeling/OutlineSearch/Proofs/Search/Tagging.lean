import OutlineSearch.Outline.Tag
import OutlineSearch.Proofs.Search.Alike
import OutlineSearch.Proofs.Text.Blanks
import OutlineSearch.Proofs.Text.Marks
import OutlineSearch.Record.Build
import OutlineSearch.Search.Filter
import OutlineSearch.Search.Scope
import Mathlib.Data.List.TakeWhile
import Mathlib.Data.String.Basic

/-!
# Tags in normal form

The tags of a page or a block are the normal forms of what is spelled in its properties and in its
text, without repetition and in order. Blanks are trimmed before the hashes in front are taken away,
so a spelling with blanks behind its hashes keeps them, and nothing is left of one that holds
nothing else. All other spellings name a tag: their normal form is one, and it is the name without
the blanks and hashes around it.

The records of pages, blocks, tasks and templates have the tags of their properties and their text.
A wanted tag is normalized before it is looked for, in a scope and in a filter alike, so it is found
exactly where its normal form is among these tags.
-/

namespace OutlineSearch

namespace Text

/-! ### Names in order -/

variable {a b : String} {names : List String}

theorem mem_insertName : b ∈ insertName a names ↔ b = a ∨ b ∈ names := by
  induction names with
  | nil => simp [insertName]
  | cons first rest ih =>
    rw [insertName]
    split
    · simp
    · split
      · next heq => simp [heq]
      · simp [ih, or_left_comm]

theorem mem_sortedNames : a ∈ sortedNames names ↔ a ∈ names := by
  induction names with
  | nil => simp [sortedNames]
  | cons first rest ih => rw [sortedNames, List.foldr_cons, mem_insertName, List.mem_cons, ← ih,
      sortedNames]

theorem pairwise_insertName (h : names.Pairwise (· < ·)) :
    (insertName a names).Pairwise (· < ·) := by
  induction names with
  | nil => exact List.pairwise_singleton _ _
  | cons first rest ih =>
    obtain ⟨hfirst, hrest⟩ := List.pairwise_cons.1 h
    rw [insertName]
    split
    · next hlt =>
      refine List.pairwise_cons.2 ⟨?_, h⟩
      intro other hother
      rcases List.mem_cons.1 hother with rfl | hother
      · exact hlt
      · exact hlt.trans (hfirst other hother)
    · next hnot =>
      split
      · exact h
      · next hne =>
        refine List.pairwise_cons.2 ⟨?_, ih hrest⟩
        intro other hother
        rcases mem_insertName.1 hother with rfl | hother
        · exact lt_of_le_of_ne (not_lt.1 hnot) (Ne.symm hne)
        · exact hfirst other hother

theorem pairwise_sortedNames (names : List String) : (sortedNames names).Pairwise (· < ·) := by
  induction names with
  | nil => exact .nil
  | cons first rest ih => exact pairwise_insertName ih

/-! ### What is dropped at the front -/

/-- What is dropped last decides, if it is dropped first too. -/
theorem dropWhile_dropWhile {p q : Char → Bool} (h : ∀ c, q c = true → p c = true)
    (s : List Char) : (s.dropWhile q).dropWhile p = s.dropWhile p := by
  conv_rhs => rw [← List.takeWhile_append_dropWhile (p := q) (l := s)]
  rw [List.dropWhile_append_of_pos]
  intro c hc
  exact h c (List.mem_takeWhile_imp hc)

end Text

namespace Outline

open OutlineSearch.Text

/-! ### Normal forms -/

/-- A spelling of a tag: behind the blanks and the hashes in front of it there is a character that
is no blank. -/
def Named (s : List Char) : Prop :=
  ∃ c rest, (trim s).dropWhile (· == '#') = c :: rest ∧ isBlank c = false

/-- The name of a spelling, in lower-case and without the blanks and hashes around it. -/
def tagName (s : List Char) : List Char :=
  lower ((trim s).dropWhile fun c => isBlank c || c == '#')

variable {s : List Char}

theorem bare_of_suffix {t : List Char} (h : t <:+ trim s) {c : Char} {rest : List Char}
    (ht : t = c :: rest) (hc : isBlank c = false) : Bare t where
  first {d more} hd := by
    obtain ⟨rfl, -⟩ := List.cons.inj (ht.symm.trans hd)
    exact hc
  last {d front} hd := by
    obtain ⟨before, hbefore⟩ := h
    have hlast : trim s = (before ++ front) ++ [d] := by
      rw [← hbefore, hd, List.append_assoc]
    exact (Bare.trim s).last hlast

/-- Without a hash in front a text has none in front of its lower-case form. -/
theorem dropWhile_hash_lower (h : ∀ rest, s ≠ '#' :: rest) :
    (lower s).dropWhile (· == '#') = lower s := by
  cases hlower : lower s with
  | nil => rfl
  | cons d more =>
    rw [List.dropWhile_cons_of_neg]
    intro hd
    have hhash : lower s = [] ++ '#' :: more := by
      rw [hlower, List.nil_append, beq_iff_eq.1 hd]
    obtain ⟨a, b, rfl, ha, -⟩ := lower_eq_append_mark (by decide) hhash
    cases a with
    | nil => exact h b rfl
    | cons e a => exact lower_ne_nil (List.cons_ne_nil e a) ha

theorem dropWhile_hash_ne (s rest : List Char) : s.dropWhile (· == '#') ≠ '#' :: rest := by
  intro h
  have hhead := List.head_dropWhile_not (· == '#') (l := s) (by simp [h])
  simp [h] at hhead

theorem normalTag_of_isLower (h : ∀ c ∈ s, IsLower c) :
    normalTag s = (trim s).dropWhile (· == '#') := by
  refine lowerFrom_of_isLower (fun c hc ↦ h c ?_) []
  exact (trim_sublist s).subset ((List.dropWhile_sublist _).subset hc)

theorem isLower_normalTag (s : List Char) : ∀ c ∈ normalTag s, IsLower c := fun _ hc ↦
  isLower_of_mem_lowerFrom hc

theorem Named.normalTag_ne_nil (h : Named s) : normalTag s ≠ [] := by
  obtain ⟨c, rest, hs, -⟩ := h
  rw [normalTag, hs]
  exact lower_ne_nil (List.cons_ne_nil c rest)

/-- The normal form of a spelling that names a tag is in normal form. -/
theorem Named.normalTag_normalTag (h : Named s) : normalTag (normalTag s) = normalTag s := by
  obtain ⟨c, rest, hs, hc⟩ := h
  have hbare : Bare (normalTag s) := (bare_of_suffix (List.dropWhile_suffix _) hs hc).lower
  rw [normalTag_of_isLower (isLower_normalTag s), hbare.trim_eq]
  exact dropWhile_hash_lower (dropWhile_hash_ne (trim s))

/-- A spelling names a tag exactly if its normal form is one: not empty, and in normal form. -/
theorem named_iff : Named s ↔ normalTag s ≠ [] ∧ normalTag (normalTag s) = normalTag s := by
  constructor
  · intro h
    exact ⟨h.normalTag_ne_nil, h.normalTag_normalTag⟩
  · rintro ⟨hne, hnormal⟩
    cases hs : (trim s).dropWhile (· == '#') with
    | nil => exact absurd (by rw [normalTag, hs]; rfl) hne
    | cons c rest =>
      refine ⟨c, rest, hs, ?_⟩
      refine Bool.eq_false_iff.2 fun hc ↦ ?_
      -- a blank in front is trimmed when the normal form is normalized
      have hblank : normalTag s = c :: lower rest := by
        rw [normalTag, hs, lower_cons_of_isBlank hc]
      rw [normalTag_of_isLower (isLower_normalTag s), hblank, trim_cons hc] at hnormal
      have hlength :=
        ((List.dropWhile_sublist (· == '#')).trans (trim_sublist (lower rest))).length_le
      rw [hnormal, List.length_cons] at hlength
      omega

/-- The normal form of a spelling that names a tag is its name. -/
theorem Named.normalTag_eq (h : Named s) : normalTag s = tagName s := by
  obtain ⟨c, rest, hs, hc⟩ := h
  have hhash : c ≠ '#' := by
    rintro rfl
    exact dropWhile_hash_ne _ _ hs
  have hdrop := dropWhile_dropWhile (p := fun c => isBlank c || c == '#') (q := (· == '#'))
    (by simp +contextual) (trim s)
  rw [hs, List.dropWhile_cons_of_neg (by simp [hc, hhash])] at hdrop
  rw [normalTag, tagName, hs, ← hdrop]

/-- What says something and does not start with a hash names a tag. -/
theorem named_of_ne (hblank : isAllBlank s = false) (hhash : ∀ rest, trim s ≠ '#' :: rest) :
    Named s := by
  cases hs : trim s with
  | nil =>
    have hall : isAllBlank s = true := by
      obtain ⟨before, after, hbefore, hafter, heq⟩ := exists_eq_trim s
      rw [heq, hs, List.append_nil, isAllBlank, List.all_append]
      exact Bool.and_eq_true_iff.2 ⟨hbefore, hafter⟩
    rw [hall] at hblank
    cases hblank
  | cons c rest =>
    refine ⟨c, rest, ?_, (Bare.trim s).first hs⟩
    rw [hs, List.dropWhile_cons_of_neg]
    intro hc
    obtain rfl : c = '#' := by simpa using hc
    exact hhash rest hs

/-! ### The tags of a page or a block -/

/-- What one value spells, if it is a text that says something. -/
def spelling? : Value → Option (List Char)
  | .text s => if isBlankString s then none else some s.toList
  | _ => none

/-- What the value of a tag property spells. -/
def spellingsOfValue : Value → List (List Char)
  | .list items | .tuple items | .set items => items.filterMap spelling?
  | v => [v].filterMap spelling?

/-- What a text spells: its hashtags, the references that a hash makes tags, and the references that
look like tags, without their hashes. -/
def spellingsMet (s : List Char) : List (List Char) :=
  findAll hashtag s ++ findAll taggedReference s ++
    ((findAll pageReference s).filter isTagLike).map fun name => name.filter (· != '#')

/-- The spellings of the tags of a page or a block. -/
def tagSpellings (properties : Properties) (text : String) : List (List Char) :=
  ((properties.filter fun (k, _) => isTagKey k).flatMap fun (_, v) => spellingsOfValue v) ++
    spellingsMet text.toList

theorem tagsOfValue_eq (v : Value) :
    tagsOfValue v = (spellingsOfValue v).map fun s => String.ofList (normalTag s) := by
  have hitems (items : List Value) : (items.filterMap fun item =>
      match item with
      | .text s => if isBlankString s then none else some (normalizeTag s)
      | _ => none) =
        (items.filterMap spelling?).map fun s => String.ofList (normalTag s) := by
    rw [List.map_filterMap]
    refine List.filterMap_congr fun item _ ↦ ?_
    cases item with
    | text s =>
      change (if isBlankString s then none else some (normalizeTag s)) =
        Option.map _ (if isBlankString s then none else some s.toList)
      split
      · rfl
      · rfl
    | _ => rfl
  cases v with
  | list items | tuple items | set items => exact hitems items
  | text s => exact hitems [.text s]
  | _ => rfl

theorem allTags_eq (properties : Properties) (text : String) : allTags properties text =
    sortedNames ((tagSpellings properties text).map fun s => String.ofList (normalTag s)) := by
  rw [allTags, tagSpellings, List.map_append, List.map_flatMap]
  simp only [tagsOfValue_eq]
  rw [tagsMet, spellingsMet]
  simp only [List.map_append, List.map_map]
  rfl

/-- The tags are the normal forms of the spellings. -/
theorem mem_allTags {properties : Properties} {text tag : String} :
    tag ∈ allTags properties text ↔
      ∃ s ∈ tagSpellings properties text, String.ofList (normalTag s) = tag := by
  rw [allTags_eq, mem_sortedNames, List.mem_map]

theorem normalizeTag_ofList (t : List Char) :
    normalizeTag (String.ofList t) = String.ofList (normalTag t) := by
  rw [normalizeTag, String.toList_ofList]

/-- The tags are all in normal form, and none is empty, exactly if all spellings name a tag. -/
theorem forall_allTags_iff {properties : Properties} {text : String} :
    (∀ tag ∈ allTags properties text, tag ≠ "" ∧ normalizeTag tag = tag) ↔
      ∀ s ∈ tagSpellings properties text, Named s := by
  have hspelling (s : List Char) : (String.ofList (normalTag s) ≠ "" ∧
      normalizeTag (String.ofList (normalTag s)) = String.ofList (normalTag s)) ↔ Named s := by
    rw [named_iff, normalizeTag_ofList, String.ofList_inj, Ne, String.ofList_eq_empty_iff]
  constructor
  · intro h s hs
    exact (hspelling s).1 (h _ (mem_allTags.2 ⟨s, hs, rfl⟩))
  · intro h tag htag
    obtain ⟨s, hs, rfl⟩ := mem_allTags.1 htag
    exact (hspelling s).2 (h s hs)

end Outline

/-! ### Records with tags -/

open OutlineSearch.Outline OutlineSearch.Outcome OutlineSearch.Text

/-- A record whose tags come from some properties and a text. -/
inductive TaggedBy : Record → Properties → String → Prop where
  | page (p : Page) (reason : Option String) :
    TaggedBy (.ofPage p reason) p.properties p.content
  | block (b : Block) (page : String) : TaggedBy (.ofBlock b page) b.properties b.content
  | task {b : Block} {page : String} {r : Record} (h : Record.ofTask? b page = some r) :
    TaggedBy r b.properties b.content
  | template (maxDepth : Int) (p : Page) (blocks : List Block) :
    TaggedBy (.ofTemplate maxDepth p blocks) p.properties
      (if blocks.isEmpty then p.content else Record.templateText maxDepth blocks)

theorem TaggedBy.tags_eq {r : Record} {properties : Properties} {text : String}
    (h : TaggedBy r properties text) : r.tags = allTags properties text := by
  cases h with
  | page | block | template => rfl
  | task h =>
    obtain ⟨found, -, rfl⟩ := Option.map_eq_some_iff.1 h
    rfl

/-- The scope of a tag. -/
def Scope.tagged (wanted : String) : Scope where
  tag := some wanted

/-- The filter for the records with a tag. -/
def Filter.tagged (wanted : String) : Filter where
  tagsAny := some [wanted]

theorem Scope.keeps_tagged {wanted : String} (h : wanted ≠ "") (r : Record) :
    (tagged wanted).keeps r = decide (normalizeTag wanted ∈ r.tags) := by
  have hspoken : spoken (some wanted) = some wanted := by
    simp [spoken, h]
  have htag : (tagged wanted).keepsTag r = decide (normalizeTag wanted ∈ r.tags) := by
    simp [keepsTag, tagged, hspoken]
  rw [← htag]
  -- the other parts of the scope are absent, and so hold
  change (true && true && true && (tagged wanted).keepsTag r) = _
  rfl

theorem Filter.keeps_tagged (wanted : String) (r : Record) :
    (tagged wanted).keeps r = .ok (decide (normalizeTag wanted ∈ r.tags)) := by
  have htag : keepsAnyTag (some [wanted]) r = decide (normalizeTag wanted ∈ r.tags) := by
    simp [keepsAnyTag, hasTag]
  refine keeps_eq_of_forall ?_ ?_
  · simp [clauses, tagged, htag]
  · simp [clauses, tagged, htag, keepsTask_of_none]

/-- Tags are in order and listed once, and they are the normal forms of what is spelled. They are in
normal form and not empty exactly if each spelling names a tag, as does all that says something and
does not start with a hash; and a spelling that does is listed under its name, so that two spellings
of one name are not told apart. A record with these tags is kept by the scope of a tag, and by the
filter for it, exactly if the normal form of the wanted tag is among them. -/
theorem tags_in_normal_form (properties : Properties) (text : String) :
    (allTags properties text).Pairwise (· < ·) ∧
    (∀ tag, tag ∈ allTags properties text ↔
      ∃ s ∈ tagSpellings properties text, String.ofList (normalTag s) = tag) ∧
    ((∀ tag ∈ allTags properties text, tag ≠ "" ∧ normalizeTag tag = tag) ↔
      ∀ s ∈ tagSpellings properties text, Named s) ∧
    (∀ s ∈ tagSpellings properties text,
      (isAllBlank s = false → (∀ rest, trim s ≠ '#' :: rest) → Named s) ∧
      (Named s → normalTag s = tagName s)) ∧
    ∀ r, TaggedBy r properties text → ∀ wanted, wanted ≠ "" →
      (Scope.tagged wanted).keeps r =
        decide (normalizeTag wanted ∈ allTags properties text) ∧
      (Filter.tagged wanted).keeps r =
        .ok (decide (normalizeTag wanted ∈ allTags properties text)) := by
  refine ⟨?_, fun tag ↦ mem_allTags, forall_allTags_iff,
    fun s _ ↦ ⟨named_of_ne, Named.normalTag_eq⟩, ?_⟩
  · rw [allTags_eq]
    exact pairwise_sortedNames _
  · intro r hr wanted hwanted
    rw [← hr.tags_eq]
    exact ⟨Scope.keeps_tagged hwanted r, Filter.keeps_tagged wanted r⟩

/-- A page with one tag spelled twice and another one in its text. -/
def taggedPage : Page where
  id := "1"
  name := "a"
  properties := [("tags", .list [.text " ##Work ", .text "work"])]
  content := "see #[[Big Plan]]"

theorem tagSpellings_taggedPage : tagSpellings taggedPage.properties taggedPage.content =
    [" ##Work ".toList, "work".toList, "Big Plan".toList] := by
  decide +kernel

/-- All spellings of the page name tags, so these are in normal form, and the page is found by
another spelling of one of them. -/
theorem taggedPage_in_normal_form :
    (∀ tag ∈ allTags taggedPage.properties taggedPage.content, tag ≠ "" ∧ normalizeTag tag = tag) ∧
    (Scope.tagged "#WORK\n").keeps (.ofPage taggedPage none) = true ∧
    (Filter.tagged "wor").keeps (.ofPage taggedPage none) = .ok false := by
  obtain ⟨-, hmem, hnormal, -, hkeeps⟩ :=
    tags_in_normal_form taggedPage.properties taggedPage.content
  have hpage := TaggedBy.page taggedPage none
  rw [tagSpellings_taggedPage] at hnormal hmem
  refine ⟨hnormal.2 ?_, ?_, ?_⟩
  · simp only [List.forall_mem_cons]
    refine ⟨⟨'W', "ork".toList, ?_, ?_⟩, ⟨'w', "ork".toList, ?_, ?_⟩,
      ⟨'B', "ig Plan".toList, ?_, ?_⟩, List.forall_mem_nil _⟩
    all_goals decide +kernel
  · rw [(hkeeps _ hpage "#WORK\n" (by decide)).1, decide_eq_true_iff]
    exact (hmem _).2 ⟨"work".toList, by simp, by decide +kernel⟩
  · rw [(hkeeps _ hpage "wor" (by decide)).2]
    refine congrArg Except.ok (decide_eq_false fun h ↦ ?_)
    obtain ⟨s, hs, hname⟩ := (hmem _).1 h
    revert hname
    simp only [List.mem_cons, List.not_mem_nil, or_false] at hs
    rcases hs with rfl | rfl | rfl
    all_goals decide +kernel

/-- A blank behind the hash stays in the tag, which is not in normal form and stands beside the tag
that it spells; and nothing but a hash is an empty tag. -/
theorem not_tags_in_normal_form :
    allTags [("tags", .list [.text "# a", .text "a"])] "" = [" a", "a"] ∧
    normalizeTag " a" = "a" ∧ normalizeTag "# A" = " a" ∧
    tagName "# a".toList = tagName "a".toList ∧
    allTags [("tags", .text "#")] "" = [""] := by
  refine ⟨?_, ?_, ?_, ?_, ?_⟩ <;> decide +kernel

end OutlineSearch
