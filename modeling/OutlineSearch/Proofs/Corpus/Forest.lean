import OutlineSearch.Corpus.Api
import OutlineSearch.Proofs.Json.Reading
import OutlineSearch.Proofs.Search.Cursor
import OutlineSearch.Proofs.Search.Refusals
import Mathlib.Data.List.Flatten

/-!
# Outlines that a server answers with

A server answers a call for the outline of a page with a list of documents. The objects among them
are nodes, and so are the objects among their children. A node is well-formed when it is a block
without its children. The forest pruned at the malformed nodes has each node that is well-formed and
stands under well-formed nodes only.

What is read is less: a malformed node takes the whole tree that it stands in with it, and a node
whose children are a truth value or a number breaks the reading off. Both are stated here for every
list of documents, with what they leave of the pruned forest.
-/

namespace OutlineSearch

open OutlineSearch.Schema

/-! ### Entries beside the page and the children -/

namespace Value

variable {key name : String} {value : Value} {es es' : List (Value × Value)}

theorem lookup_putText_of_ne (h : name ≠ key) :
    lookup name (putText key value es) = lookup name es :=
  lookup_eq_of_beside filter_beside_put_self h

/-- Erasing a key leaves the entries beside those under it. -/
theorem erase_text (key : String) (es : List (Value × Value)) :
    erase (.text key) es = es.filter (beside key) := by
  refine List.filter_congr fun ⟨k, v⟩ _ ↦ ?_
  cases k with
  | text s => simp [beside, equals, bne]
  | _ => simp [beside, equals, number?]

theorem lookup_erase_of_ne (h : name ≠ key) :
    lookup name (erase (.text key) es) = lookup name es := by
  rw [erase_text, lookup_filter (beside_text h)]

theorem lookup_erase_self (key : String) (es : List (Value × Value)) :
    lookup key (erase (.text key) es) = none := by
  rw [erase_text, lookup, Option.map_eq_none_iff, List.find?_eq_none]
  rintro ⟨k, v⟩ hmem hk
  cases k with
  | text s =>
    rw [beq_iff_eq.1 hk, List.mem_filter, not_beside_self] at hmem
    cases hmem.2
  | _ => cases hk

/-- Whether two maps hold the same under every name that is neither of the two that are put on a
raw block with the name of its page. -/
def SameBeside (es es' : List (Value × Value)) : Prop :=
  ∀ name, name ≠ "page" → name ≠ "children" → lookup name es = lookup name es'

theorem SameBeside.get (h : SameBeside es es') (name : String) (hpage : name ≠ "page")
    (hchildren : name ≠ "children") : get es name = get es' name := by
  rw [Value.get, Value.get, h name hpage hchildren]

theorem SameBeside.put (h : SameBeside es es') (key : String) (value : Value) :
    SameBeside (putText key value es) (putText key value es') := by
  intro name hpage hchildren
  by_cases hname : name = key
  · rw [hname, lookup_putText_self, lookup_putText_self]
  · rw [lookup_putText_of_ne hname, lookup_putText_of_ne hname, h name hpage hchildren]

theorem SameBeside.putPage (h : SameBeside es es') (page page' : Value) :
    SameBeside (putText "page" page es) (putText "page" page' es') := by
  intro name hpage hchildren
  rw [lookup_putText_of_ne hpage, lookup_putText_of_ne hpage, h name hpage hchildren]

/-- The entries with a page and children put on them are the same beside these as without
children. -/
theorem sameBeside_stamped (page children : Value) (es : List (Value × Value)) :
    SameBeside (putText "children" children (putText "page" page es))
      (erase (.text "children") es) := by
  intro name hpage hchildren
  rw [lookup_putText_of_ne hchildren, lookup_putText_of_ne hpage, lookup_erase_of_ne hchildren]

end Value

/-- A field that has to be there is read from what stands under its name. -/
theorem Schema.required_congr {α : Type} {es es' : List (Value × Value)} {name : String}
    (h : Value.lookup name es = Value.lookup name es') (read : Value → Checked α) :
    required es [name] read = required es' [name] read := by
  simp only [required, present?, List.findSome?_cons, List.findSome?_nil, h]

namespace Block

open Value

variable {es es' : List (Value × Value)}

/-! ### Reading a node with its page and without its children -/

/-- The block on a page with the given blocks under it. -/
def rehung (page : String) (children : List Block) : Block → Block
  | mk uuid content properties _ parent _ createdAt updatedAt =>
    mk uuid content properties (some page) parent children createdAt updatedAt

/-- The fields with a default put under a name that has no value. -/
def defaulted (name : String) (value : Value) (es : List (Value × Value)) : List (Value × Value) :=
  if (get es name).isNull then putText name value es else es

/-- The fields with the identity put under its own name. -/
def identified (es : List (Value × Value)) : List (Value × Value) :=
  if !(get es "uuid").isTruthy && !(get es "id").isNull then
    putText "uuid" (.text (get es "id").plainText) es
  else es

/-- The fields with the reference under a name settled. -/
def referring (name : String) (es : List (Value × Value)) : List (Value × Value) :=
  putText name (reference (get es name)) es

theorem settleFields_eq (es : List (Value × Value)) : settleFields es =
    referring "parent" (referring "page"
      (defaulted "properties" (.map []) (defaulted "content" (.text "") (identified es)))) := rfl

/-- A tree of blocks that are all on one page. -/
inductive AllOn (page : String) : Block → Prop where
  | intro {b : Block} (root : b.page = some page) (below : ∀ c ∈ b.children, AllOn page c) :
    AllOn page b

theorem sameBeside_identified (h : SameBeside es es') :
    SameBeside (identified es) (identified es') := by
  unfold identified
  rw [h.get "uuid" (by decide) (by decide), h.get "id" (by decide) (by decide)]
  split
  · exact h.put _ _
  · exact h

theorem sameBeside_defaulted (h : SameBeside es es') (name : String) (hpage : name ≠ "page")
    (hchildren : name ≠ "children") (value : Value) :
    SameBeside (defaulted name value es) (defaulted name value es') := by
  unfold defaulted
  rw [h.get name hpage hchildren]
  split
  · exact h.put _ _
  · exact h

theorem sameBeside_referringPage (h : SameBeside es es') :
    SameBeside (referring "page" es) (referring "page" es') :=
  h.putPage _ _

theorem sameBeside_referring (h : SameBeside es es') {name : String} (hpage : name ≠ "page")
    (hchildren : name ≠ "children") : SameBeside (referring name es) (referring name es') := by
  unfold referring
  rw [h.get name hpage hchildren]
  exact h.put _ _

theorem sameBeside_settleFields (h : SameBeside es es') :
    SameBeside (settleFields es) (settleFields es') := by
  rw [settleFields_eq, settleFields_eq]
  have hcontent := sameBeside_defaulted (sameBeside_identified h) "content" (by decide) (by decide)
    (.text "")
  have hproperties := sameBeside_defaulted hcontent "properties" (by decide) (by decide)
    (.map [])
  exact sameBeside_referring (sameBeside_referringPage hproperties) (by decide) (by decide)

/-- A reference is settled as a text or as nothing. -/
theorem reference_cases (v : Value) : reference v = .null ∨ ∃ s, reference v = .text s := by
  cases v with
  | null => exact .inl rfl
  | map es =>
    rw [reference]
    generalize (if (get es "uuid").isTruthy then get es "uuid" else _) = target
    split
    · exact .inl rfl
    · exact .inr ⟨_, rfl⟩
  | _ => exact .inr ⟨_, rfl⟩

/-- The page among the settled fields. -/
theorem lookup_page_settleFields (es : List (Value × Value)) :
    lookup "page" (settleFields es) = some (reference (get es "page")) := by
  have hbeside : lookup "page" (defaulted "properties" (.map [])
      (defaulted "content" (.text "") (identified es))) = lookup "page" es := by
    unfold defaulted identified
    split <;> split <;> split <;> simp [lookup_putText_of_ne]
  rw [settleFields_eq, referring, lookup_putText_of_ne (by decide), referring, lookup_putText_self,
    Value.get, Value.get, hbeside]

variable {uuid content : String} {properties : Properties} {page parent : Option String}
  {children : List Block} {createdAt updatedAt : Option Stamp}
  {raw : List (Value × Value)} {read : Checked (List Block)}

theorem readFields_eq_valid :
    readFields raw read =
        .valid (mk uuid content properties page parent children createdAt updatedAt) ↔
      required (settleFields raw) ["uuid"] string = .valid uuid ∧
      field (settleFields raw) ["content"] "" string = .valid content ∧
      field (settleFields raw) ["properties"] [] namedValues = .valid properties ∧
      field (settleFields raw) ["page"] none (optional string) = .valid page ∧
      field (settleFields raw) ["parent"] none (optional string) = .valid parent ∧
      read = .valid children ∧
      field (settleFields raw) ["created-at", "createdAt", "created_at"] none
        (optional Stamp.read) = .valid createdAt ∧
      field (settleFields raw) ["updated-at", "updatedAt", "updated_at"] none
        (optional Stamp.read) = .valid updatedAt := by
  simp only [readFields, Checked.functorMap_eq, Checked.seq_eq, Checked.apply_eq_valid,
    Checked.map_eq_valid, Checked.under_eq_valid]
  constructor
  · rintro ⟨_, _, ⟨_, _, ⟨_, _, ⟨_, _, h, hparent, rfl⟩, hread, rfl⟩, hcreated, rfl⟩, hupdated,
      hblock⟩
    obtain ⟨_, _, ⟨_, _, ⟨_, _, ⟨_, huuid, rfl⟩, hcontent, rfl⟩, hproperties, rfl⟩, hpage, rfl⟩ := h
    obtain ⟨rfl, rfl, rfl, rfl, rfl, rfl, rfl, rfl⟩ := Block.mk.inj hblock
    exact ⟨huuid, hcontent, hproperties, hpage, hparent, hread, hcreated, hupdated⟩
  · rintro ⟨huuid, hcontent, hproperties, hpage, hparent, hread, hcreated, hupdated⟩
    exact ⟨_, _, ⟨_, _, ⟨_, _, ⟨_, _, ⟨_, _, ⟨_, _, ⟨_, _, ⟨_, huuid, rfl⟩, hcontent, rfl⟩,
      hproperties, rfl⟩, hpage, rfl⟩, hparent, rfl⟩, hread, rfl⟩, hcreated, rfl⟩, hupdated, rfl⟩

theorem ends_readFields (hread : read.Ends) : (readFields raw read).Ends := by
  have hrequired : (required (settleFields raw) ["uuid"] string).Ends := by
    unfold required
    split
    · exact (ends_string _).under _
    · exact (Checked.ends_refuse _).under _
  have hstring (names : List String) :=
    ends_field (ends_optional ends_string) (settleFields raw) names none
  have hstamp (names : List String) :=
    ends_field (ends_optional Stamp.ends_read) (settleFields raw) names none
  simp only [readFields, Checked.functorMap_eq, Checked.seq_eq]
  exact ((((((((hrequired.map _).apply (ends_field ends_string _ _ _)).apply
    (ends_field ends_namedValues _ _ _)).apply (hstring _)).apply (hstring _)).apply
    (hread.under _)).apply (hstamp _)).apply (hstamp _))

theorem field_page_settleFields (es : List (Value × Value)) :
    field (settleFields es) ["page"] none (optional string) =
      (optional string (reference (get es "page"))).under "page" := by
  simp [field, present?, lookup_page_settleFields]

/-- The fields of a raw block on a page are read as the block without its children is, with the page
and the children that have been read put on it. -/
theorem readFields_stamped (page : String) (stamp : Value) (es : List (Value × Value))
    (read : Checked (List Block)) (x : Block) :
    readFields (putText "children" stamp (putText "page" (.text page) es)) read = .valid x ↔
      ∃ b children, readFields (erase (.text "children") es) (.valid []) = .valid b ∧
        read = .valid children ∧ x = b.rehung page children := by
  have hsame := sameBeside_settleFields (sameBeside_stamped (.text page) stamp es)
  have hfield {α : Type} (names : List String) (hnames : ∀ n ∈ names, n ≠ "page" ∧ n ≠ "children")
      (default : α) (read : Value → Checked α) :=
    field_congr (fun n hn ↦ hsame n (hnames n hn).1 (hnames n hn).2) default read
  have huuid := required_congr (hsame "uuid" (by decide) (by decide)) string
  have hpage : field (settleFields (putText "children" stamp (putText "page" (.text page) es)))
      ["page"] none (optional string) = .valid (some page) := by
    rw [field_page_settleFields, Value.get, lookup_putText_of_ne (by decide), lookup_putText_self]
    rfl
  obtain ⟨page', hpage'⟩ : ∃ page', field (settleFields (erase (.text "children") es)) ["page"] none
      (optional string) = .valid page' := by
    rw [field_page_settleFields]
    rcases reference_cases (get (erase (.text "children") es) "page") with h | ⟨s, h⟩
    · exact ⟨none, by rw [h]; rfl⟩
    · exact ⟨some s, by rw [h]; rfl⟩
  cases x with
  | mk uuid content properties xpage parent children createdAt updatedAt =>
    rw [readFields_eq_valid, huuid, hpage, hfield ["content"] (by decide),
      hfield ["properties"] (by decide), hfield ["parent"] (by decide),
      hfield ["created-at", "createdAt", "created_at"] (by decide),
      hfield ["updated-at", "updatedAt", "updated_at"] (by decide)]
    constructor
    · rintro ⟨huuid, hcontent, hproperties, hpage, hparent, hread, hcreated, hupdated⟩
      obtain rfl := Checked.valid.inj hpage
      exact ⟨mk uuid content properties page' parent [] createdAt updatedAt, children,
        readFields_eq_valid.2
          ⟨huuid, hcontent, hproperties, hpage', hparent, rfl, hcreated, hupdated⟩, hread, rfl⟩
    · rintro ⟨b, children', hb, hread, hx⟩
      cases b with
      | mk uuid' content' properties' page'' parent' children'' createdAt' updatedAt' =>
        obtain ⟨huuid, hcontent, hproperties, -, hparent, -, hcreated, hupdated⟩ :=
          readFields_eq_valid.1 hb
        obtain ⟨rfl, rfl, rfl, rfl, rfl, rfl, rfl, rfl⟩ := Block.mk.inj hx
        exact ⟨huuid, hcontent, hproperties, rfl, hparent, hread, hcreated, hupdated⟩

theorem readChildren_cons_of_ne {k v : Value} {rest : List (Value × Value)}
    (h : k ≠ .text "children") : readChildren ((k, v) :: rest) = readChildren rest := by
  rw [readChildren.eq_def]
  split
  · next heq => cases heq
  · next heq =>
    obtain ⟨rfl, -⟩ := Prod.mk.inj (List.cons.inj heq).1
    exact absurd rfl h
  · next heq => rw [(List.cons.inj heq).2]

/-- The children among fields that they have been put on. -/
theorem readChildren_putText (v : Value) (es : List (Value × Value)) :
    readChildren (putText "children" v es) = readItems v := by
  unfold putText
  induction es with
  | nil => rw [Value.put, readChildren]
  | cons e rest ih =>
    obtain ⟨k, w⟩ := e
    rw [Value.put]
    split
    · next h => rw [equals_text_iff.1 h, readChildren]
    · next h => rw [readChildren_cons_of_ne fun hk ↦ h (equals_text_iff.2 hk), ih]

theorem readChildren_erase (es : List (Value × Value)) :
    readChildren (erase (.text "children") es) = .valid [] := by
  rw [erase_text]
  induction es with
  | nil => rw [List.filter_nil, readChildren]
  | cons e rest ih =>
    obtain ⟨k, v⟩ := e
    rw [List.filter_cons]
    split
    · next h =>
      rw [readChildren_cons_of_ne, ih]
      rintro rfl
      rw [not_beside_self] at h
      cases h
    · exact ih

/-- A raw block without its children. -/
theorem read_erase (es : List (Value × Value)) :
    Block.read (.map (erase (.text "children") es)) =
      readFields (erase (.text "children") es) (.valid []) := by
  rw [Block.read, Value.get, lookup_erase_self, readChildren_erase]
  rfl

/-- A raw block on a page, with the children that have been put on it. -/
theorem read_stamped (page : String) (items : List Value) (es : List (Value × Value)) :
    Block.read (.map (putText "children" (.list items) (putText "page" (.text page) es))) =
      readFields (putText "children" (.list items) (putText "page" (.text page) es))
        (readAll 0 items) := by
  have hitems : ∃ found, itemsOf (.list items) = .ok found := by
    unfold itemsOf
    split
    · exact ⟨[], rfl⟩
    · exact ⟨items, rfl⟩
  obtain ⟨found, hfound⟩ := hitems
  rw [Block.read, Value.get, lookup_putText_self, Option.getD_some, hfound, readChildren_putText,
    readItems]

end Block

/-! ### Forests of documents -/

namespace Json

/-- The documents that a list holds. -/
def itemsOf : Json → List Json
  | .list items => items
  | _ => []

/-- The documents that stand as children among the members of an object. -/
def childrenOf (members : List (String × Json)) : List Json :=
  ((members.find? (·.1 == "children")).map fun m => itemsOf m.2).getD []

mutual

/-- The nodes of the tree that a document is, in the order of the document: an object and the
objects below it. -/
def nodes : Json → List Json
  | .object members => .object members :: nodesBelow members
  | _ => []

/-- The nodes below an object with the given members. -/
def nodesBelow : List (String × Json) → List Json
  | [] => []
  | (key, j) :: rest => if key == "children" then nodesIn j else nodesBelow rest

/-- The nodes of the forest that a document holds. -/
def nodesIn : Json → List Json
  | .list items => nodesAll items
  | _ => []

/-- The nodes of a forest. -/
def nodesAll : List Json → List Json
  | [] => []
  | j :: rest => nodes j ++ nodesAll rest

end

/-- The block that a document is when its children are left out. -/
def node? : Json → Option Block
  | .object members =>
    match Block.read (.map (Value.erase (.text "children") (toEntries members))) with
    | .valid b => some b
    | _ => none
  | _ => none

mutual

/-- The tree that a document is on a page, pruned at the nodes that are no block: none or one. -/
def pruned (page : String) : Json → List Block
  | .object members =>
    (node? (.object members)).toList.map (Block.rehung page (prunedBelow page members))
  | _ => []

/-- The pruned forest below an object with the given members. -/
def prunedBelow (page : String) : List (String × Json) → List Block
  | [] => []
  | (key, j) :: rest => if key == "children" then prunedIn page j else prunedBelow page rest

/-- The pruned forest that a document holds. -/
def prunedIn (page : String) : Json → List Block
  | .list items => prunedAll page items
  | _ => []

/-- The pruned forest of some documents. -/
def prunedAll (page : String) : List Json → List Block
  | [] => []
  | j :: rest => pruned page j ++ prunedAll page rest

end

/-- Whether all nodes of a tree are blocks. -/
def isSound (j : Json) : Bool := (nodes j).all fun n => (node? n).isSome

/-- Whether a document is a truth value or a number that counts as present. -/
def isSolid : Json → Bool
  | .bool b => b
  | .int n => n != 0
  | .float x => !x.isZero
  | _ => false

/-- The children of a node when they are a truth value or a number that counts as present: such
children cannot be gone through. -/
def solid? : Json → Option Json
  | .object members => ((members.find? (·.1 == "children")).map (·.2)).filter isSolid
  | _ => none

theorem childrenOf_cons (key : String) (j : Json) (rest : List (String × Json)) :
    childrenOf ((key, j) :: rest) = if key == "children" then itemsOf j else childrenOf rest := by
  rw [childrenOf, List.find?_cons]
  cases key == "children" <;> rfl

theorem nodesBelow_eq (members : List (String × Json)) :
    nodesBelow members = nodesAll (childrenOf members) := by
  induction members with
  | nil => rfl
  | cons m rest ih =>
    obtain ⟨key, j⟩ := m
    rw [nodesBelow, childrenOf_cons]
    split
    · cases j <;> rfl
    · exact ih

theorem prunedBelow_eq (page : String) (members : List (String × Json)) :
    prunedBelow page members = prunedAll page (childrenOf members) := by
  induction members with
  | nil => rfl
  | cons m rest ih =>
    obtain ⟨key, j⟩ := m
    rw [prunedBelow, childrenOf_cons]
    split
    · cases j <;> rfl
    · exact ih

theorem nodesAll_eq (items : List Json) : nodesAll items = items.flatMap nodes := by
  induction items with
  | nil => rfl
  | cons j rest ih => rw [nodesAll, ih, List.flatMap_cons]

theorem prunedAll_eq (page : String) (items : List Json) :
    prunedAll page items = items.flatMap (pruned page) := by
  induction items with
  | nil => rfl
  | cons j rest ih => rw [prunedAll, ih, List.flatMap_cons]

mutual

/-- Induction on a forest: the first tree is taken in from its root, before the others. -/
theorem forest_induction {P : List Json → Prop} (nil : P [])
    (object : ∀ members rest, P (childrenOf members) → P rest → P (.object members :: rest))
    (other : ∀ j rest, (∀ members, j ≠ .object members) → P rest → P (j :: rest)) :
    ∀ items, P items
  | [] => nil
  | .object members :: rest =>
    object members rest (forest_induction_childrenOf nil object other members)
      (forest_induction nil object other rest)
  | .list _ :: rest => other _ rest (fun _ h ↦ nomatch h) (forest_induction nil object other rest)
  | .text _ :: rest => other _ rest (fun _ h ↦ nomatch h) (forest_induction nil object other rest)
  | .float _ :: rest => other _ rest (fun _ h ↦ nomatch h) (forest_induction nil object other rest)
  | .int _ :: rest => other _ rest (fun _ h ↦ nomatch h) (forest_induction nil object other rest)
  | .bool _ :: rest => other _ rest (fun _ h ↦ nomatch h) (forest_induction nil object other rest)
  | .null :: rest => other _ rest (fun _ h ↦ nomatch h) (forest_induction nil object other rest)

theorem forest_induction_childrenOf {P : List Json → Prop} (nil : P [])
    (object : ∀ members rest, P (childrenOf members) → P rest → P (.object members :: rest))
    (other : ∀ j rest, (∀ members, j ≠ .object members) → P rest → P (j :: rest)) :
    ∀ members, P (childrenOf members)
  | [] => nil
  | (key, j) :: rest => by
    rw [childrenOf_cons]
    split
    · exact forest_induction_itemsOf nil object other j
    · exact forest_induction_childrenOf nil object other rest

theorem forest_induction_itemsOf {P : List Json → Prop} (nil : P [])
    (object : ∀ members rest, P (childrenOf members) → P rest → P (.object members :: rest))
    (other : ∀ j rest, (∀ members, j ≠ .object members) → P rest → P (j :: rest)) :
    ∀ j, P (itemsOf j)
  | .list items => forest_induction nil object other items
  | .object _ => nil
  | .text _ => nil
  | .float _ => nil
  | .int _ => nil
  | .bool _ => nil
  | .null => nil

end

end Json

namespace ApiGraph

open Json

variable {page : String}

/-- The fault of children that cannot be gone through. -/
def solidFault (v : Json) : Fault :=
  .wrongType s!"'{Block.scalarName v.toValue}' object is not iterable"

theorem stampItems_toValue (page : String) (j : Json) : stampItems page j.toValue =
    if j.isSolid then .error (solidFault j) else stampAll page (toValues (itemsOf j)) := by
  cases j with
  | list items => rfl
  | bool b => cases b <;> rfl
  | int n =>
    simp only [toValue, stampItems, childItems, Value.isTruthy, isSolid]
    by_cases h : n = 0
    · rw [h]
      rfl
    · simp [h, solidFault, toValue, Except.map]
  | float x =>
    simp only [toValue, stampItems, childItems, Value.isTruthy, isSolid]
    by_cases h : x.isZero
    · simp [h, itemsOf, toValues, stampAll, Except.map]
    · simp [h, solidFault, toValue, Except.map]
  | text s =>
    simp only [toValue, stampItems, childItems]
    cases (Value.text s).isTruthy <;> rfl
  | object members =>
    simp only [toValue, stampItems, childItems]
    cases (Value.map (toEntries members)).isTruthy <;> rfl
  | null => rfl

theorem solid?_cons (key : String) (j : Json) (rest : List (String × Json)) :
    solid? (.object ((key, j) :: rest)) =
      if key == "children" then if j.isSolid then some j else none else solid? (.object rest) := by
  rw [solid?, List.find?_cons]
  cases key == "children" with
  | true => exact Option.filter_some
  | false => rfl

theorem stampChildren_toEntries (page : String) (members : List (String × Json)) :
    stampChildren page (toEntries members) =
      match solid? (.object members) with
      | some v => .error (solidFault v)
      | none => stampAll page (toValues (childrenOf members)) := by
  induction members with
  | nil => rfl
  | cons m rest ih =>
    obtain ⟨key, j⟩ := m
    rw [toEntries, childrenOf_cons, solid?_cons]
    by_cases hkey : key = "children"
    · rw [hkey, stampChildren, stampItems_toValue]
      cases j.isSolid <;> rfl
    · have hskip : (key == "children") = false := by simpa using hkey
      rw [stampChildren.eq_def]
      simp only [hskip]
      split
      · next heq => cases heq
      · next heq =>
        obtain ⟨h, -⟩ := Prod.mk.inj (List.cons.inj heq).1
        exact absurd (Value.text.inj h) hkey
      · next heq => rw [← (List.cons.inj heq).2, ih]; rfl

/-- How the stamped form of some documents is read: as an outline the trees that are sound are kept,
as the children of a block all are kept or none. -/
structure ReadAs (page : String) (items : List Json) (vs : List Value) : Prop where
  outline : validBlocks vs = .ok (prunedAll page (items.filter isSound))
  children : ∀ index, (items.all isSound = true →
      Block.readAll index vs = .valid (prunedAll page items)) ∧
    (items.all isSound = false → ∃ issues, Block.readAll index vs = .invalid issues)

theorem isSound_object (members : List (String × Json)) : isSound (.object members) =
    ((node? (.object members)).isSome && (childrenOf members).all isSound) := by
  rw [isSound, nodes, List.all_cons, nodesBelow_eq, nodesAll_eq, List.all_flatMap]
  rfl

theorem pruned_object (page : String) (members : List (String × Json)) :
    pruned page (.object members) = (node? (.object members)).toList.map
      (Block.rehung page (prunedAll page (childrenOf members))) := by
  rw [pruned, prunedBelow_eq]

theorem pruned_of_ne_object {j : Json} (h : ∀ members, j ≠ .object members) :
    pruned page j = [] := by
  cases j with
  | object members => exact absurd rfl (h members)
  | _ => rfl

theorem node?_eq_some {members : List (String × Json)} {b : Block} :
    node? (.object members) = some b ↔
      Block.readFields (Value.erase (.text "children") (toEntries members)) (.valid []) =
        .valid b := by
  rw [node?, Block.read_erase]
  split <;> simp_all

/-- A raw block is read whole, with the page put on it and on the nodes below it, or not at all. -/
theorem read_object {members : List (String × Json)} {vs : List Value}
    (h : ReadAs page (childrenOf members) vs) :
    (isSound (.object members) = true → ∃ b, pruned page (.object members) = [b] ∧
      Block.read (.map (Value.putText "children" (.list vs)
        (Value.putText "page" (.text page) (toEntries members)))) = .valid b) ∧
    (isSound (.object members) = false → ∃ issues,
      Block.read (.map (Value.putText "children" (.list vs)
        (Value.putText "page" (.text page) (toEntries members)))) = .invalid issues) := by
  rw [isSound_object, Block.read_stamped, pruned_object]
  obtain ⟨hall, hsome⟩ := h.children 0
  have hends : (Block.readAll 0 vs).Ends := by
    cases hsound : (childrenOf members).all isSound with
    | true => exact hall hsound ▸ .valid _
    | false =>
      obtain ⟨issues, hissues⟩ := hsome hsound
      exact hissues ▸ .invalid issues
  refine ⟨fun hsound ↦ ?_, fun hsound ↦ ?_⟩
  · rw [Bool.and_eq_true, Option.isSome_iff_exists] at hsound
    obtain ⟨⟨b, hb⟩, hkids⟩ := hsound
    refine ⟨_, by rw [hb]; rfl, ?_⟩
    exact (Block.readFields_stamped ..).2 ⟨b, _, node?_eq_some.1 hb, hall hkids, rfl⟩
  · cases hread : Block.readFields (Value.putText "children" (.list vs)
      (Value.putText "page" (.text page) (toEntries members))) (Block.readAll 0 vs) with
    | invalid issues => exact ⟨issues, rfl⟩
    | broken fault => cases hread ▸ Block.ends_readFields hends
    | valid x =>
      obtain ⟨b, children, hb, hchildren, -⟩ := (Block.readFields_stamped ..).1 hread
      rw [node?_eq_some.2 hb, Option.isSome_some, Bool.true_and] at hsound
      obtain ⟨issues, hissues⟩ := hsome hsound
      cases hissues.symm.trans hchildren

theorem readAs_nil (page : String) : ReadAs page [] [] :=
  ⟨rfl, fun _ ↦ ⟨fun _ ↦ rfl, fun h ↦ nomatch h⟩⟩

theorem ReadAs.other {j : Json} {rest : List Json} {vs : List Value} (h : ReadAs page rest vs)
    (hj : ∀ members, j ≠ .object members) : ReadAs page (j :: rest) vs := by
  have hsound : isSound j = true := by
    cases j with
    | object members => exact absurd rfl (hj members)
    | _ => rfl
  refine ⟨?_, fun index ↦ ?_⟩
  · rw [List.filter_cons_of_pos hsound, prunedAll, pruned_of_ne_object hj]
    exact h.outline
  · rw [List.all_cons, hsound, Bool.true_and, prunedAll, pruned_of_ne_object hj]
    exact h.children index

theorem ReadAs.object {members : List (String × Json)} {rest : List Json} {below vs : List Value}
    (hbelow : ReadAs page (childrenOf members) below) (h : ReadAs page rest vs) :
    ReadAs page (.object members :: rest) (.map (Value.putText "children" (.list below)
      (Value.putText "page" (.text page) (toEntries members))) :: vs) := by
  obtain ⟨hwhole, hnone⟩ := read_object hbelow
  cases hsound : isSound (.object members) with
  | true =>
    obtain ⟨b, hpruned, hread⟩ := hwhole hsound
    refine ⟨?_, fun index ↦ ?_⟩
    · rw [validBlocks, hread, h.outline, List.filter_cons_of_pos hsound, prunedAll, hpruned]
      rfl
    · rw [List.all_cons, hsound, Bool.true_and, prunedAll, hpruned, Block.readAll, hread]
      obtain ⟨hall, hsome⟩ := h.children (index + 1)
      refine ⟨fun hrest ↦ ?_, fun hrest ↦ ?_⟩
      · rw [hall hrest]
        rfl
      · obtain ⟨issues, hissues⟩ := hsome hrest
        exact ⟨issues, by rw [hissues]; rfl⟩
  | false =>
    obtain ⟨issues, hread⟩ := hnone hsound
    refine ⟨?_, fun index ↦ ?_⟩
    · rw [validBlocks, hread, List.filter_cons_of_neg (by simp [hsound])]
      exact h.outline
    · rw [List.all_cons, hsound, Bool.false_and, Block.readAll, hread]
      refine ⟨nofun, fun _ ↦ ?_⟩
      obtain ⟨hall, hsome⟩ := h.children (index + 1)
      cases hrest : rest.all isSound with
      | true => exact ⟨_, by rw [hall hrest]; rfl⟩
      | false =>
        obtain ⟨more, hmore⟩ := hsome hrest
        exact ⟨_, by rw [hmore]; rfl⟩

/-- Stamping breaks off at the first node whose children cannot be gone through; else the stamped
form is read as told. -/
theorem stampAll_toValues (page : String) (items : List Json) :
    match (nodesAll items).findSome? solid? with
    | some v => stampAll page (toValues items) = .error (solidFault v)
    | none => ∃ vs, stampAll page (toValues items) = .ok vs ∧ ReadAs page items vs := by
  induction items using forest_induction with
  | nil => exact ⟨[], rfl, readAs_nil page⟩
  | object members rest hbelow hrest =>
    rw [nodesAll, nodes, List.cons_append, List.findSome?_cons, List.findSome?_append,
      nodesBelow_eq]
    simp only [toValues, toValue, stampAll, stampChildren_toEntries]
    cases hsolid : solid? (.object members) with
    | some v => rfl
    | none =>
      cases hkids : (nodesAll (childrenOf members)).findSome? solid? with
      | some v =>
        simp only [hkids] at hbelow
        simp only [hbelow]
        rfl
      | none =>
        simp only [hkids] at hbelow
        obtain ⟨below, hstamped, hread⟩ := hbelow
        simp only [hstamped]
        cases hmore : (nodesAll rest).findSome? solid? with
        | some v =>
          simp only [hmore] at hrest
          simp only [hrest]
          rfl
        | none =>
          simp only [hmore] at hrest
          obtain ⟨vs, hvs, hreadRest⟩ := hrest
          simp only [hvs]
          exact ⟨_, rfl, hread.object hreadRest⟩
  | other j rest hj hrest =>
    have hnodes : nodesAll (j :: rest) = nodesAll rest := by
      cases j with
      | object members => exact absurd rfl (hj members)
      | _ => rfl
    have hstamp : stampAll page (toValues (j :: rest)) = stampAll page (toValues rest) := by
      cases j with
      | object members => exact absurd rfl (hj members)
      | _ => rw [toValues, toValue, stampAll]; exact nofun
    rw [hnodes, hstamp]
    cases hmore : (nodesAll rest).findSome? solid? with
    | some v => simpa only [hmore] using hrest
    | none =>
      simp only [hmore] at hrest
      obtain ⟨vs, hvs, hreadRest⟩ := hrest
      exact ⟨vs, hvs, hreadRest.other hj⟩

/-- The outline that a list of documents is read as. -/
theorem outlineOf_list (page : String) (items : List Json) :
    outlineOf page (.list (toValues items)) =
      match (nodesAll items).findSome? solid? with
      | some v => .error (solidFault v)
      | none => .ok (prunedAll page (items.filter isSound)) := by
  have hstamped := stampAll_toValues page items
  rw [outlineOf]
  cases h : (nodesAll items).findSome? solid? with
  | some v =>
    simp only [h] at hstamped
    rw [hstamped]
    rfl
  | none =>
    simp only [h] at hstamped
    obtain ⟨vs, hvs, hread⟩ := hstamped
    rw [hvs]
    exact hread.outline

theorem allOn_prunedAll (page : String) (items : List Json) :
    ∀ b ∈ prunedAll page items, b.AllOn page := by
  induction items using forest_induction with
  | nil => exact nofun
  | object members rest hbelow hrest =>
    rw [prunedAll, pruned_object]
    refine List.forall_mem_append.2 ⟨?_, hrest⟩
    intro b hb
    obtain ⟨head, -, rfl⟩ := List.mem_map.1 hb
    cases head
    exact .intro rfl hbelow
  | other j rest hj hrest =>
    rw [prunedAll, pruned_of_ne_object hj]
    exact hrest

theorem pruned_eq_nil (page : String) (j : Json) :
    pruned page j = [] ↔ (node? j).isSome = false := by
  cases j with
  | object members => rw [pruned]; cases node? (.object members) <;> simp
  | _ => exact ⟨fun _ ↦ rfl, fun _ ↦ rfl⟩

/-- The trees that are sound leave all of the pruned forest when each root that is a block is the
root of such a tree. -/
theorem prunedAll_filter_eq_iff (page : String) (items : List Json) :
    prunedAll page (items.filter isSound) = prunedAll page items ↔
      ∀ j ∈ items, (node? j).isSome = true → isSound j = true := by
  induction items with
  | nil => exact ⟨fun _ ↦ nofun, fun _ ↦ rfl⟩
  | cons j rest ih =>
    rw [List.forall_mem_cons, ← ih]
    cases hsound : isSound j with
    | true =>
      rw [List.filter_cons_of_pos hsound, prunedAll, prunedAll, List.append_cancel_left_eq]
      simp
    | false =>
      rw [List.filter_cons_of_neg (by simp [hsound]), prunedAll]
      have hlength : (prunedAll page (rest.filter isSound)).length ≤
          (prunedAll page rest).length := by
        rw [prunedAll_eq, prunedAll_eq]
        exact (List.filter_sublist.flatMap _).length_le
      constructor
      · intro heq
        have hnil : pruned page j = [] := by
          rw [heq, List.length_append] at hlength
          exact List.length_eq_zero_iff.1 (by omega)
        rw [hnil, List.nil_append] at heq
        exact ⟨by simp [(pruned_eq_nil page j).1 hnil], heq⟩
      · rintro ⟨hnone, heq⟩
        rw [(pruned_eq_nil page j).2 (by simpa using hnone), heq, List.nil_append]

/-- What the list in the answer to a call is read as. -/
theorem outline_of_received {g : ApiGraph} {items : List Json}
    (h : received "logseq.Editor.getPageBlocksTree"
      (g.server ⟨"logseq.Editor.getPageBlocksTree", [.text page]⟩) = .ok (toValue (.list items))) :
    (g.outline page).1 =
      match (nodesAll items).findSome? solid? with
      | some v => .error (solidFault v)
      | none => .ok (prunedAll page (items.filter isSound)) := by
  have houtline : (g.outline page).1 = outlineOf page (toValue (.list items)) := by
    simp only [outline, call, allSendable, sendable, h]
    rfl
  rw [houtline, toValue, outlineOf_list]

/-- The outline in the answer to a call, for every list of documents. A node whose children cannot
be gone through breaks the reading off. Otherwise the trees that are sound are read, on the page and
in the order of the list; this is the pruned forest exactly when each root that is a block has none
but blocks below it. -/
theorem outline_of_payload {g : ApiGraph} {items : List Json}
    (h : received "logseq.Editor.getPageBlocksTree"
      (g.server ⟨"logseq.Editor.getPageBlocksTree", [.text page]⟩) = .ok (toValue (.list items))) :
    ((g.outline page).1 =
      match (nodesAll items).findSome? solid? with
      | some v => .error (solidFault v)
      | none => .ok (prunedAll page (items.filter isSound))) ∧
    ((g.outline page).1 = .ok (prunedAll page items) ↔
      (∀ n ∈ nodesAll items, solid? n = none) ∧
        ∀ j ∈ items, (node? j).isSome = true → isSound j = true) ∧
    ∀ blocks, (g.outline page).1 = .ok blocks → ∀ b ∈ blocks, b.AllOn page := by
  rw [outline_of_received h, ← List.findSome?_eq_none_iff]
  refine ⟨rfl, ?_, ?_⟩
  · cases (nodesAll items).findSome? solid? with
    | some v => simp
    | none =>
      rw [← prunedAll_filter_eq_iff page]
      simp
  · cases (nodesAll items).findSome? solid? with
    | some v => exact nofun
    | none =>
      intro blocks hblocks
      rw [← Except.ok.inj hblocks]
      exact allOn_prunedAll page _

/-- A node that is a block, over one that is none. -/
def lopsided : List Json := [.object [("uuid", .text "r"), ("children", .list [.object []])]]

/-- The children of each of its nodes can be gone through. -/
theorem findSome?_lopsided : (nodesAll lopsided).findSome? solid? = none := rfl

theorem filter_isSound_lopsided : lopsided.filter isSound = [] := by
  have hlength : (lopsided.filter isSound).length = 0 := by decide +kernel
  exact List.length_eq_zero_iff.1 hlength

theorem length_prunedAll_lopsided : (prunedAll "a" lopsided).length = 1 := by decide +kernel

/-- A server that answers every call with a document. -/
def serving (j : Json) : ApiGraph where
  address := "http://localhost"
  server _ := .response 200 ((Json.write Json.indented j).toList.map fun c => c.toNat.toUInt8)

theorem received_lopsided : received "logseq.Editor.getPageBlocksTree"
    ((serving (.list lopsided)).server ⟨"logseq.Editor.getPageBlocksTree", [.text "a"]⟩) =
      .ok (toValue (.list lopsided)) := by
  have hdecode : Text.decodeAny? (((Json.write Json.indented (.list lopsided)).toList.map
      fun c => c.toNat.toUInt8).map (·.toNat)) =
        some (Json.write Json.indented (.list lopsided)).toList := by decide +kernel
  have hplain : (Json.list lopsided).Plain := by
    constructor
    · simp [lopsided, Json.Finite, FiniteAll, FiniteMembers]
    · simp [lopsided, Distinct, DistinctAll, DistinctMembers]
  have hread : Json.read? (Json.write Json.indented (.list lopsided)).toList =
      some (.list lopsided) := Json.read?_write Json.separates_indented hplain rfl
  simp only [received, serving, hdecode, Option.bind_some, hread]
  rfl

/-- The lopsided tree is left out as a whole, although its root is a block. -/
theorem outline_lopsided :
    ((serving (.list lopsided)).outline "a").1 = .ok [] ∧ (prunedAll "a" lopsided).length = 1 := by
  have h := (outline_of_payload received_lopsided).1
  rw [findSome?_lopsided, filter_isSound_lopsided] at h
  exact ⟨h, length_prunedAll_lopsided⟩

/-- The lopsided tree is left out as a whole. -/
theorem not_outline_pruned : ¬ ∀ (g : ApiGraph) (page : String) (items : List Json),
    received "logseq.Editor.getPageBlocksTree"
      (g.server ⟨"logseq.Editor.getPageBlocksTree", [.text page]⟩) = .ok (toValue (.list items)) →
    (g.outline page).1 = .ok (prunedAll page items) := by
  intro h
  have hall := h _ "a" lopsided received_lopsided
  have hread := outline_of_received received_lopsided
  rw [findSome?_lopsided, filter_isSound_lopsided] at hread
  have hlength := length_prunedAll_lopsided
  rw [← Except.ok.inj (hread.symm.trans hall)] at hlength
  cases hlength

end ApiGraph

end OutlineSearch
