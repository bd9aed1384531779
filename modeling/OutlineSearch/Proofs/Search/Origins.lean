import OutlineSearch.Proofs.Corpus.Identities
import OutlineSearch.Proofs.Outline.Preorder
import OutlineSearch.Proofs.Search.Alike
import OutlineSearch.Proofs.Search.Faults
import OutlineSearch.Proofs.Search.Listed

/-!
# What records are made of

Every record that a search finds is made of a page of the listing, or of a block of an outline that
has been read. So what holds of all pages and blocks that may be told of holds of all records.
-/

namespace OutlineSearch

open OutlineSearch.Search OutlineSearch.Outline

/-! ### Walks stay in the outline -/

namespace Block

mutual

theorem exists_mem_tracedAt {maxDepth : Int} {depth : Nat} {e : Block × Nat} (trace : List Nat)
    (number : Nat) : (b : Block) → e ∈ preorder maxDepth depth b →
    ∃ e' ∈ tracedAt trace number b, e'.1 = e.1
  | mk uuid content properties page parent children createdAt updatedAt, h => by
    rw [preorder, List.mem_cons] at h
    rw [tracedAt]
    rcases h with rfl | h
    · exact ⟨_, .head _, rfl⟩
    · split at h
      · cases h
      · obtain ⟨e', he', heq⟩ := exists_mem_traced (trace ++ [number]) (number + 1) children h
        exact ⟨e', .tail _ he', heq⟩

theorem exists_mem_traced {maxDepth : Int} {depth : Nat} {e : Block × Nat} (trace : List Nat)
    (number : Nat) : (blocks : List Block) → e ∈ preorders maxDepth depth blocks →
    ∃ e' ∈ traced trace number blocks, e'.1 = e.1
  | [], h => by cases h
  | b :: rest, h => by
    rw [preorders, List.mem_append] at h
    rw [traced]
    rcases h with h | h
    · obtain ⟨e', he', heq⟩ := exists_mem_tracedAt trace number b h
      exact ⟨e', List.mem_append_left _ he', heq⟩
    · obtain ⟨e', he', heq⟩ := exists_mem_traced trace (number + b.size) rest h
      exact ⟨e', List.mem_append_right _ he', heq⟩

end

/-- What holds of all blocks of an outline holds of those that a walk comes to. -/
theorem forall_nodes {B : Block → Prop} {tree : List Block} (h : ∀ e ∈ listing tree, B e.1)
    (maxDepth : Int) : ∀ b ∈ nodes maxDepth tree, B b := by
  intro b hb
  obtain ⟨e, he, rfl⟩ := List.mem_map.1 hb
  rw [walk_eq_preorders] at he
  obtain ⟨e', he', heq⟩ := exists_mem_traced [] 0 tree he
  exact heq ▸ h e' he'

end Block

/-! ### Records -/

/-- A record is made of a page or of a block: it shows one, or one of its properties, with any
score. -/
inductive Record.MadeOf (P : Page → Prop) (B : Block → Prop) : Record → Prop where
  | page {p : Page} (hp : P p) (reason : Option String) : MadeOf P B (ofPage p reason)
  | template {p : Page} (hp : P p) (maxDepth : Int) (blocks : List Block) :
    MadeOf P B (ofTemplate maxDepth p blocks)
  | pageProperty {p : Page} (hp : P p) {entry : String × Value} (h : entry ∈ p.properties) :
    MadeOf P B (ofProperty (.ofPage p) entry.1 entry.2)
  | block {b : Block} (hb : B b) (page : String) : MadeOf P B (ofBlock b page)
  | task {b : Block} (hb : B b) {page : String} {r : Record} (h : ofTask? b page = some r) :
    MadeOf P B r
  | blockProperty {b : Block} (hb : B b) (page : String) {entry : String × Value}
    (h : entry ∈ b.properties) : MadeOf P B (ofProperty (.ofBlock b page) entry.1 entry.2)
  | scored {r : Record} (h : MadeOf P B r) (query : String) : MadeOf P B (r.scored query)

/-- A record is one of a page. -/
abbrev Record.ShowsPage (p : Page) : Record → Prop := MadeOf (· = p) fun _ ↦ False

/-- A record is one of a block. -/
abbrev Record.ShowsBlock (b : Block) : Record → Prop := MadeOf (fun _ ↦ False) (· = b)

/-- Every record is one of a page or of a block. -/
theorem Record.MadeOf.source {P : Page → Prop} {B : Block → Prop} {r : Record} (h : r.MadeOf P B) :
    (∃ p, P p ∧ r.ShowsPage p) ∨ ∃ b, B b ∧ r.ShowsBlock b := by
  induction h with
  | @page p hp reason => exact .inl ⟨p, hp, .page (P := (· = p)) rfl reason⟩
  | @template p hp maxDepth blocks =>
    exact .inl ⟨p, hp, .template (P := (· = p)) rfl maxDepth blocks⟩
  | @pageProperty p hp entry hentry => exact .inl ⟨p, hp, .pageProperty (P := (· = p)) rfl hentry⟩
  | @block b hb page => exact .inr ⟨b, hb, .block (B := (· = b)) rfl page⟩
  | @task b hb page r h => exact .inr ⟨b, hb, .task (B := (· = b)) rfl h⟩
  | @blockProperty b hb page entry hentry =>
    exact .inr ⟨b, hb, .blockProperty (B := (· = b)) rfl page hentry⟩
  | scored _ query ih =>
    exact ih.imp (fun ⟨p, hp, h⟩ ↦ ⟨p, hp, h.scored query⟩) fun ⟨b, hb, h⟩ ↦ ⟨b, hb, h.scored query⟩

/-- All pages and all blocks that may be told of are of a kind. -/
structure Lore.TellsOf (L : Lore) (P : Page → Prop) (B : Block → Prop) : Prop where
  pages : ∀ items, L.pages (.ok items) → ∀ p ∈ items, P p
  blocks : ∀ page tree, L.blocks page (.ok tree) → ∀ e ∈ Block.listing tree, B e.1

/-! ### Scripts -/

namespace Script

variable {α β : Type} {L : Lore} {P : Page → Prop} {B : Block → Prop} {Q : α → Prop} {R : β → Prop}

/-- Whatever a script gives is of a kind. -/
def Gives (Q : α → Prop) (L : Lore) (s : Script α) : Prop := ∀ a, s.Yields L (.ok a) → Q a

theorem gives_pure {a : α} (h : Q a) : (pure a : Script α).Gives Q L := by
  intro a' ha
  cases ha
  exact h

theorem gives_fail (fault : Fault) : (fail fault : Script α).Gives Q L := fun _ h ↦ nomatch h

theorem gives_bind {s : Script α} {f : α → Script β} (hs : s.Gives Q L)
    (hf : ∀ a, Q a → (f a).Gives R L) : (s >>= f).Gives R L := by
  intro b h
  rcases Yields.of_bind h with ⟨a, ha, h⟩ | ⟨fault, -, heq⟩
  · exact hf a (hs a ha) b h
  · cases heq

theorem gives_rescue {s : Script α} {handler : Fault → Outcome α} (hs : s.Gives Q L)
    (h : ∀ fault a, handler fault = .ok a → Q a) : (s.rescue handler).Gives Q L := by
  intro a ha
  rcases Yields.of_rescue ha with ⟨a', ha', heq⟩ | ⟨fault, -, heq⟩
  · exact Except.ok.inj heq ▸ hs a' ha'
  · exact h fault a heq.symm

section Reads

variable (hL : L.TellsOf P B)

include hL

theorem gives_allPages : allPages.Gives (fun items ↦ ∀ p ∈ items, P p) L := by
  intro items h
  cases h with
  | pages hr h =>
    cases h
    exact hL.pages items hr

theorem gives_allTemplates : allTemplates.Gives (fun items ↦ ∀ p ∈ items, P p) L := by
  intro items h
  generalize ho : (Except.ok items : Outcome (List Page)) = o at h
  cases h with
  | @templates _ r _ hr h =>
    cases h
    cases r with
    | error fault => cases ho
    | ok pages =>
      cases ho
      exact fun p hp ↦ hL.pages pages hr p (List.mem_of_mem_filter hp)

theorem gives_outline (page : String) :
    (outline page).Gives (fun tree ↦ ∀ e ∈ Block.listing tree, B e.1) L := by
  intro tree h
  cases h with
  | blocks hr h =>
    cases h
    exact hL.blocks page tree hr

theorem gives_outlines {items : List Page} (h : ∀ p ∈ items, P p) : (outlines items).Gives
    (fun found ↦ ∀ t ∈ found, P t.1 ∧ ∀ e ∈ Block.listing t.2, B e.1) L := by
  intro found hfound
  cases hfound with
  | @trees _ _ trees _ hr hfound =>
    cases hfound
    rintro ⟨p, tree⟩ ht
    obtain ⟨⟨p', tree?⟩, hmem, heq⟩ := List.mem_filterMap.1 ht
    obtain ⟨tree', htree, heq⟩ := Option.map_eq_some_iff.1 heq
    obtain ⟨rfl, rfl⟩ := Prod.mk.inj heq
    obtain rfl : tree? = some tree' := htree
    refine ⟨h p' (List.of_mem_zip hmem).1, ?_⟩
    have hzip : (p'.name, some tree') ∈ (items.map Page.name).zip trees := by
      rw [List.zip_map_left]
      exact List.mem_map.2 ⟨(p', some tree'), hmem, rfl⟩
    exact hL.blocks p'.name tree' ((List.forall₂_iff_zip.1 hr).2 hzip)

end Reads

end Script

/-! ### Atomic filters -/

namespace Evaluator

open Script

variable {L : Lore} {P : Page → Prop} {B : Block → Prop}

/-- All records that a script gives are made of pages and blocks of a kind. -/
abbrev Makes (P : Page → Prop) (B : Block → Prop) (L : Lore) (s : Script (List Record)) : Prop :=
  s.Gives (fun records ↦ ∀ r ∈ records, r.MadeOf P B) L

theorem makes_nil : Makes P B L (pure []) := gives_pure (List.forall_mem_nil _)

theorem makes_filter {s : Script (List Record)} (hs : Makes P B L s) (keep : Record → Bool) :
    Makes P B L (do return (← s).filter keep) :=
  gives_bind hs fun _ h ↦ gives_pure fun r hr ↦ h r (List.mem_of_mem_filter hr)

theorem madeOf_pageProperties {p : Page} (hp : P p) : ∀ r ∈ pageProperties p, r.MadeOf P B := by
  intro r hr
  obtain ⟨entry, hentry, rfl⟩ := List.mem_map.1 hr
  exact .pageProperty hp hentry

section

variable (hL : L.TellsOf P B) (e : Evaluator) (scope : Option Scope)

include hL

/-- A filter that shows the pages of the listing which it picks makes its records of them. -/
theorem makes_picked (pick : List Page → List Page) (reason : Option String)
    (hpick : ∀ pages, ∀ p ∈ pick pages, p ∈ pages) :
    Makes P B L (do return (pick (← allPages)).map fun p => Record.ofPage p reason) := by
  refine gives_bind (gives_allPages hL) fun pages hpages ↦ gives_pure ?_
  exact List.forall_mem_map.2 fun p hp ↦ .page (hpages p (hpick pages p hp)) reason

/-- A filter that shows the pages whose outlines pass a test makes its records of them. -/
theorem makes_passing (limit : Int) (test : Page × List Block → Bool) (reason : Option String) :
    Makes P B L (do
      let found ← outlines (upTo limit (← allPages))
      return (found.filter test).map fun (p, _) => Record.ofPage p reason) := by
  refine gives_bind (gives_allPages hL) fun pages hpages ↦ ?_
  have hscanned : ∀ p ∈ upTo limit pages, P p := fun p hp ↦ hpages p (List.mem_of_mem_take hp)
  refine gives_bind (gives_outlines hL hscanned) fun found hfound ↦ gives_pure ?_
  exact List.forall_mem_map.2 fun t ht ↦ .page (hfound t (List.mem_of_mem_filter ht)).1 reason

theorem gives_scan : (e.scan scope).Gives
    (fun found ↦ ∀ t ∈ found, P t.1 ∧ ∀ b ∈ e.visible t.2, B b) L := by
  unfold scan
  rw [scanPages_eq]
  refine gives_bind (Q := fun pages ↦ ∀ p ∈ pages, P p) ?_ fun pages hpages ↦ ?_
  · exact gives_bind (gives_allPages hL) fun pages hpages ↦
      gives_pure fun p hp ↦ hpages p (mem_of_mem_reach hp)
  · intro found hfound t ht
    obtain ⟨hp, htree⟩ := gives_outlines hL hpages found hfound t ht
    exact ⟨hp, Block.forall_nodes htree _⟩

/-- A filter that looks into outlines makes its records of what it makes of each. -/
theorem makes_scanned {ofTree : Page × List Block → List Record}
    (h : ∀ t, (∀ b ∈ e.visible t.2, B b) → ∀ r ∈ ofTree t, r.MadeOf P B) :
    Makes P B L (do return (← e.scan scope).flatMap ofTree) := by
  refine gives_bind (gives_scan hL e scope) fun found hfound ↦ gives_pure fun r hr ↦ ?_
  obtain ⟨t, ht, hr⟩ := List.mem_flatMap.1 hr
  exact h t (hfound t ht).2 r hr

theorem makes_collectPages : Makes P B L collectPages :=
  makes_picked hL id none fun _ _ h ↦ h

theorem makes_collectBlocks : Makes P B L (e.collectBlocks scope) := by
  refine makes_scanned hL e scope fun t ht ↦ ?_
  exact List.forall_mem_map.2 fun b hb ↦ .block (ht b (List.mem_of_mem_filter hb)) t.1.displayName

theorem makes_collectTasks : Makes P B L (e.collectTasks scope) := by
  refine makes_scanned hL e scope fun t ht r hr ↦ ?_
  obtain ⟨b, hb, htask⟩ := List.mem_filterMap.1 hr
  exact .task (ht b hb) htask

theorem makes_collectTemplates : Makes P B L e.collectTemplates := by
  refine gives_bind (gives_allTemplates hL) fun items hitems ↦ gives_pure ?_
  exact List.forall_mem_map.2 fun p hp ↦ .template (hitems p hp) _ []

theorem makes_collectProperties : Makes P B L (e.collectProperties scope) := by
  refine gives_bind (gives_allPages hL) fun pages hpages ↦
    gives_bind (gives_scan hL e scope) fun found hfound ↦ gives_pure ?_
  rw [List.forall_mem_append]
  refine ⟨fun r hr ↦ ?_, fun r hr ↦ ?_⟩
  · obtain ⟨p, hp, hr⟩ := List.mem_flatMap.1 hr
    exact madeOf_pageProperties (hpages p hp) r hr
  · obtain ⟨t, ht, hr⟩ := List.mem_flatMap.1 hr
    obtain ⟨b, hb, hr⟩ := List.mem_flatMap.1 hr
    obtain ⟨entry, hentry, rfl⟩ := List.mem_map.1 hr
    exact .blockProperty ((hfound t ht).2 b hb) t.1.displayName hentry

theorem makes_both {keep keep' : List Record → List Record}
    (hkeep : ∀ records, ∀ r ∈ keep records, r ∈ records)
    (hkeep' : ∀ records, ∀ r ∈ keep' records, r ∈ records) :
    Makes P B L (do
      let pages := keep (← collectPages)
      return pages ++ keep' (← e.collectBlocks scope)) := by
  refine gives_bind (makes_collectPages hL) fun pages hpages ↦
    gives_bind (makes_collectBlocks hL e scope) fun blocks hblocks ↦ gives_pure ?_
  rw [List.forall_mem_append]
  exact ⟨fun r hr ↦ hpages r (hkeep pages r hr), fun r hr ↦ hblocks r (hkeep' blocks r hr)⟩

theorem makes_collectTarget (target : Target) : Makes P B L (e.collectTarget target scope) := by
  cases target with
  | pages => exact makes_collectPages hL
  | blocks => exact makes_collectBlocks hL e scope
  | both => exact @makes_both L P B hL e scope id id (fun _ _ h ↦ h) fun _ _ h ↦ h
  | templates => exact makes_collectTemplates hL e
  | tasks => exact makes_collectTasks hL e scope
  | properties => exact makes_collectProperties hL e scope

theorem makes_collect (target : Target) : Makes P B L (e.collect target scope) := by
  refine gives_rescue (makes_collectTarget hL e scope target) fun fault records h ↦ ?_
  cases fault <;> cases h
  exact List.forall_mem_nil _

theorem makes_matchText (text : String) (target : Target) :
    Makes P B L (e.matchText text target scope) := by
  cases target with
  | pages => exact makes_filter (makes_collectPages hL) _
  | blocks => exact makes_filter (makes_collectBlocks hL e scope) _
  | both =>
    exact makes_both hL e scope (fun _ _ ↦ List.mem_of_mem_filter) fun _ _ ↦ List.mem_of_mem_filter
  | templates => exact makes_filter (makes_collectTemplates hL e) _
  | tasks => exact makes_filter (makes_collectTasks hL e scope) _
  | properties => exact makes_filter (makes_collectProperties hL e scope) _

theorem makes_pageBlocks (name : String) : Makes P B L (e.pageBlocks name) := by
  refine gives_bind (gives_allPages hL) fun pages _ ↦ ?_
  split
  · exact makes_nil
  · next p _ =>
    refine gives_bind (gives_outline hL p.name) fun tree htree ↦ gives_pure ?_
    exact List.forall_mem_map.2 fun b hb ↦ .block (Block.forall_nodes htree _ b hb) p.displayName

theorem makes_templateByName (name : String) : Makes P B L (e.templateByName name) := by
  refine gives_bind (gives_allPages hL) fun pages hpages ↦ ?_
  split
  · exact makes_nil
  · next p hp =>
    refine gives_bind (Q := fun _ ↦ True) (fun _ _ ↦ trivial) fun tree _ ↦ gives_pure ?_
    exact List.forall_mem_singleton.2 (.template (hpages p (mem_of_templateNamed? hp)) _ _)

theorem makes_propertyHolds (argument : List Char) : Makes P B L (propertyHolds argument) := by
  unfold propertyHolds
  split
  · exact gives_fail _
  · dsimp only
    split_ifs
    · exact gives_fail _
    · exact makes_picked hL _ _ fun _ _ ↦ List.mem_of_mem_filter

theorem makes_properties (argument : List Char) : Makes P B L (properties argument) := by
  unfold properties
  dsimp only
  split_ifs
  · exact makes_picked hL _ _ fun _ _ ↦ List.mem_of_mem_filter
  · exact gives_fail _
  · refine gives_bind (gives_allPages hL) fun pages hpages ↦ gives_pure ?_
    cases hfind : pages.find? (isCalled _) with
    | none => exact List.forall_mem_nil _
    | some p => exact madeOf_pageProperties (hpages p (List.mem_of_find?_eq_some hfind))
  · exact gives_fail _

theorem makes_datePages (token : String) : Makes P B L (e.datePages token) := by
  unfold datePages
  split
  · exact gives_fail _
  · exact gives_fail _
  · exact makes_picked hL _ _ fun _ _ h ↦ List.mem_of_mem_take (List.mem_of_mem_filter h)

theorem makes_templateListing (argument : List Char) :
    Makes P B L (e.templateListing argument) := by
  unfold templateListing
  dsimp only
  split_ifs
  · exact makes_collectTemplates hL e
  · exact gives_fail _

omit hL in
theorem makes_withQuoted {start : String} {argument : List Char}
    {next : String → Script (List Record)} (h : ∀ name, Makes P B L (next name)) :
    Makes P B L (withQuoted start argument next) := by
  unfold withQuoted
  dsimp only
  split_ifs
  · exact gives_fail _
  · exact h _

theorem makes_starts {start : String} {records : List Char → Script (List Record)}
    (h : (start, records) ∈ e.starts) (argument : List Char) : Makes P B L (records argument) := by
  simp only [starts, List.mem_cons, Prod.mk.injEq, List.not_mem_nil, or_false] at h
  rcases h with ⟨-, rfl⟩ | ⟨-, rfl⟩ | ⟨-, rfl⟩ | ⟨-, rfl⟩ | ⟨-, rfl⟩ | ⟨-, rfl⟩ | ⟨-, rfl⟩ | ⟨-, rfl⟩
  · exact makes_propertyHolds hL argument
  · exact makes_properties hL argument
  · exact makes_datePages hL e _
  · exact makes_templateListing hL e argument
  · exact makes_withQuoted (makes_templateByName hL e)
  · exact makes_withQuoted fun name ↦ makes_passing hL _ _ _
  · exact makes_withQuoted fun name ↦ makes_passing hL _ _ _
  · exact makes_withQuoted (makes_pageBlocks hL e)

theorem makes_dispatch (text : String) (target : Target) :
    Makes P B L (e.dispatch text target scope) := by
  unfold dispatch
  dsimp only
  split_ifs
  · exact makes_collectPages hL
  · exact makes_passing hL _ _ _
  · split
    · next h => exact makes_starts hL e (List.mem_of_find?_eq_some h) _
    · exact makes_matchText hL e scope text target

/-- An atomic filter makes its records of the pages and blocks that may be told of. -/
theorem makes_atom (target : Target) (strict : Bool) (text : String) :
    Makes P B L (e.atom target scope strict text) := by
  unfold atom
  split_ifs
  · exact makes_nil
  · refine gives_rescue (makes_dispatch hL e scope _ target) fun fault records h ↦ ?_
    cases fault with
    | provider message =>
      cases h
      exact List.forall_mem_nil _
    | badQuery message =>
      rw [nothingFromAtom] at h
      split_ifs at h
      cases h
      exact List.forall_mem_nil _
    | _ => cases h

/-- An expression makes its records of the pages and blocks that may be told of. -/
theorem Finds.madeOf {target : Target} {strict : Bool} {expr : Expr} {o : Outcome (List Record)}
    (h : Finds L e target scope strict expr o) {records : List Record} (ho : o = .ok records) :
    ∀ r ∈ records, r.MadeOf P B := by
  induction h generalizing records with
  | atom h => exact makes_atom hL e scope _ _ _ records (ho ▸ h)
  | all hlength hsets ih =>
    cases ho
    intro r hr
    obtain ⟨set, hset, hr⟩ := Shown.mem_of_mem_intersect hr
    obtain ⟨i, hi, rfl⟩ := List.mem_iff_getElem.1 hset
    exact ih i _ _ (List.getElem?_eq_getElem (hlength ▸ hi)) (List.getElem?_eq_getElem hi) rfl r hr
  | any hlength hsets ih =>
    cases ho
    intro r hr
    obtain ⟨set, hset, hr⟩ := List.mem_flatten.1 (Shown.mem_of_mem_union hr)
    obtain ⟨i, hi, rfl⟩ := List.mem_iff_getElem.1 hset
    exact ih i _ _ (List.getElem?_eq_getElem (hlength ▸ hi)) (List.getElem?_eq_getElem hi) rfl r hr
  | allFault | anyFault => cases ho

end

end Evaluator

/-! ### Searches -/

theorem Outcome.mem_of_mem_filter {α : Type} {test : α → Outcome Bool} {items kept : List α}
    (h : Outcome.filter test items = .ok kept) : ∀ a ∈ kept, a ∈ items := by
  induction items generalizing kept with
  | nil =>
    cases h
    exact List.forall_mem_nil _
  | cons a rest ih =>
    rw [Outcome.filter] at h
    cases htest : test a with
    | error fault =>
      rw [htest] at h
      cases h
    | ok keep =>
      cases hrest : Outcome.filter test rest with
      | error fault =>
        rw [htest, hrest] at h
        cases h
      | ok more =>
        rw [htest, hrest] at h
        obtain rfl := Except.ok.inj h
        intro x hx
        cases keep with
        | true => exact List.mem_cons.2 ((List.mem_cons.1 hx).imp_right (ih hrest x))
        | false => exact .tail a (ih hrest x hx)

namespace Record

variable {key : SortKey} {records : List Record}

theorem map_snd_ranked {ranks : List (Rank × Record)} (h : ranked key records = .ok ranks) :
    ranks.map (·.2) = records := by
  induction records generalizing ranks with
  | nil =>
    cases h
    rfl
  | cons r rest ih =>
    rw [ranked] at h
    cases hrank : r.rank key with
    | error fault =>
      rw [hrank] at h
      cases h
    | ok k =>
      cases hrest : ranked key rest with
      | error fault =>
        rw [hrank, hrest] at h
        cases h
      | ok more =>
        rw [hrank, hrest] at h
        obtain rfl := Except.ok.inj h
        rw [List.map_cons, ih hrest]

/-- To sort records is to put the scored ones in order. -/
theorem perm_sorted {query : String} {order : SortOrder} {arranged : List Record}
    (h : sorted query key order records = .ok arranged) :
    arranged.Perm (records.map (scored query)) := by
  rw [sorted] at h
  cases hranks : ranked key (records.map (scored query)) with
  | error fault =>
    rw [hranks] at h
    cases h
  | ok ranks =>
    rw [hranks] at h
    obtain rfl := Except.ok.inj h
    rw [← map_snd_ranked hranks]
    exact (List.mergeSort_perm ranks _).map _

end Record

namespace SearchRequest

variable {L : Lore} {P : Page → Prop} {B : Block → Prop} {r : SearchRequest}

/-- What a request finds is made of the pages and blocks that may be told of. -/
theorem Finds.madeOf (hL : L.TellsOf P B) {records : List Record} (h : r.Finds L (.ok records)) :
    ∀ x ∈ records, x.MadeOf P B := by
  unfold Finds at h
  split_ifs at h
  · exact Evaluator.makes_collect hL _ _ _ records h
  · exact Evaluator.Finds.madeOf hL _ _ h rfl

/-- So are the records of a request. -/
theorem madeOf_arranged (hL : L.TellsOf P B) {found : Outcome (List Record)} (h : r.Finds L found)
    {records : List Record} (hrecords : r.arranged found = .ok records) :
    ∀ x ∈ records, x.MadeOf P B := by
  cases found with
  | error fault => cases hrecords
  | ok all =>
    change (r.arrange all).mapError toldFault = .ok records at hrecords
    cases harrange : r.arrange all with
    | error fault =>
      rw [harrange] at hrecords
      cases hrecords
    | ok arranged =>
      rw [harrange] at hrecords
      obtain rfl := Except.ok.inj hrecords
      obtain ⟨kept, hkept, hsorted⟩ := arrange_eq_ok harrange
      have hall := h.madeOf hL
      intro x hx
      obtain ⟨y, hy, rfl⟩ := List.mem_map.1 ((Record.perm_sorted hsorted).subset hx)
      refine .scored (hall y ?_) r.trimmedQuery
      have hscoped : y ∈ Scope.apply r.scope all := by
        unfold Filter.apply at hkept
        split at hkept
        · exact Except.ok.inj hkept ▸ hy
        · exact Outcome.mem_of_mem_filter hkept y hy
      unfold Scope.apply at hscoped
      split at hscoped
      · exact hscoped
      · exact List.mem_of_mem_filter hscoped

end SearchRequest

end OutlineSearch
