import OutlineSearch.Yaml.Token
import OutlineSearch.Yaml.Resolve

/-!
# YAML documents as trees

The tokens of a text with one document become a tree of nodes, each with the type that its tag or
its spelling gives it. An alias stands for the node that was anchored under its name before; a text
in which an alias stands inside the node that it names gives no tree. Depth is bounded by the number
of tokens, which serves as fuel.
-/

namespace OutlineSearch.Yaml

/-- A node of a document. -/
inductive Node where
  | scalar (kind : Kind) (text : List Char)
  | sequence (kind : Kind) (items : List Node)
  | mapping (kind : Kind) (entries : List (Node × Node))
deriving Repr, Inhabited

namespace Node

/-- The type of a node. -/
def kind : Node → Kind
  | scalar kind _ | sequence kind _ | mapping kind _ => kind

/-- The node with another type. -/
def withKind (kind : Kind) : Node → Node
  | scalar _ text => scalar kind text
  | sequence _ items => sequence kind items
  | mapping _ entries => mapping kind entries

mutual

/-- The text of a scalar, or that under the value mark of a mapping. -/
def scalarText? : Node → Option (List Char)
  | scalar _ text => some text
  | sequence _ _ => none
  | mapping _ entries => markedText? entries

/-- The text of the first entry whose key is the value mark. -/
def markedText? : List (Node × Node) → Option (List Char)
  | [] => none
  | (k, v) :: rest => if k.kind = .value then scalarText? v else markedText? rest

end

mutual

/-- How many nodes stand below one another. -/
def height : Node → Nat
  | scalar _ _ => 1
  | sequence _ items => heights items + 1
  | mapping _ entries => entryHeights entries + 1

/-- The greatest height of some nodes. -/
def heights : List Node → Nat
  | [] => 0
  | n :: rest => max n.height (heights rest)

/-- The greatest height of the nodes of some entries. -/
def entryHeights : List (Node × Node) → Nat
  | [] => 0
  | (k, v) :: rest => max (max k.height v.height) (entryHeights rest)

end

end Node

/-- The tokens still to be read and what has been named by those before. -/
structure Composer where
  tokens : List Token
  handles : List (List Char × List Char)
  anchors : List (List Char × Option Node) := []

namespace Composer

/-- The next token. -/
def next? (p : Composer) : Option Token := p.tokens.head?

/-- The composer behind the next token. -/
def skip (p : Composer) : Composer := { p with tokens := p.tokens.tail }

/-- The node of an absent scalar. -/
def absent : Node := .scalar .null []

/-- The whole tag of a handle and a suffix. -/
def wholeTag (p : Composer) (handle : Option (List Char)) (suffix : List Char) :
    Reading (List Char) :=
  match handle with
  | none => .ok suffix
  | some h =>
    match p.handles.find? (·.1 == h) with
    | some (_, replacement) => .ok (replacement ++ suffix)
    | none => .error .malformed

/-- The anchor in front of a node. -/
def anchor? (p : Composer) : Option (List Char) × Composer :=
  match p.next? with
  | some (.anchor name) => (some name, p.skip)
  | _ => (none, p)

/-- The tag in front of a node. -/
def tag? (p : Composer) : Reading (Option (List Char) × Composer) :=
  match p.next? with
  | some (.tag handle suffix) => do return (some (← p.wholeTag handle suffix), p.skip)
  | _ => .ok (none, p)

/-- The anchor and the tag in front of a node, in either order. -/
def header (p : Composer) : Reading (Option (List Char) × Option (List Char) × Composer) := do
  let (anchor, p) := p.anchor?
  let (tag, p) ← p.tag?
  match anchor with
  | some _ => return (anchor, tag, p)
  | none =>
    match tag with
    | some _ =>
      let (anchor, p) := p.anchor?
      return (anchor, tag, p)
    | none => return (none, none, p)

/-- Marks an anchor as the name of a node that is being read. -/
def openAnchor (p : Composer) : Option (List Char) → Reading Composer
  | none => .ok p
  | some name =>
    if p.anchors.any (·.1 == name) then .error .malformed
    else .ok { p with anchors := (name, none) :: p.anchors }

/-- Names a node. -/
def closeAnchor (p : Composer) (node : Node) : Option (List Char) → Composer
  | none => p
  | some name =>
    { p with anchors := p.anchors.map fun (n, x) => if n == name then (n, some node) else (n, x) }

/-- The type of a scalar: by its tag, else by its spelling when it is plain. -/
def scalarKind (tag : Option (List Char)) (plain : Bool) (text : List Char) : Kind :=
  match tag with
  | none => if plain then Kind.ofPlain text else .string
  | some ['!'] => Kind.ofPlain text
  | some t => Kind.ofTag t

/-- The type of a collection: by its tag, else the given one. -/
def collectionKind (tag : Option (List Char)) (default : Kind) : Kind :=
  match tag with
  | none => default
  | some ['!'] => default
  | some t => Kind.ofTag t

/-- Where a node is read: whether block collections may stand there, and whether entries without
indentation of their own may. -/
inductive NodePlace where
  | flow
  | block
  | blockOrEntries
deriving DecidableEq

mutual

/-- Reads a node. -/
def node (place : NodePlace) : (fuel : Nat) → Composer → Reading (Node × Composer)
  | 0, _ => .error .malformed
  | fuel + 1, p => do
    match p.next? with
    | some (.reference name) =>
      match p.anchors.find? (·.1 == name) with
      | some (_, some n) => return (n, p.skip)
      | _ => .error .malformed
    | _ =>
      let (anchor, tag, p) ← p.header
      let p ← p.openAnchor anchor
      let (n, p) ← content place anchor tag fuel p
      return (n, p.closeAnchor n anchor)

/-- Reads a node behind its anchor and tag. -/
def content (place : NodePlace) (anchor tag : Option (List Char)) :
    (fuel : Nat) → Composer → Reading (Node × Composer)
  | 0, _ => .error .malformed
  | fuel + 1, p =>
    match p.next? with
    | some (.scalar text plain) => .ok (.scalar (scalarKind tag plain text) text, p.skip)
    | some .flowSequenceStart => do
      let (items, p) ← flowItems true fuel p.skip
      return (.sequence (collectionKind tag .sequence) items, p)
    | some .flowMappingStart => do
      let (entries, p) ← flowEntries true fuel p.skip
      return (.mapping (collectionKind tag .mapping) entries, p)
    | t =>
      if place = .blockOrEntries ∧ t matches some .blockEntry then do
        let (items, p) ← bareItems fuel p
        return (.sequence (collectionKind tag .sequence) items, p)
      else if place ≠ .flow ∧ t matches some .blockSequenceStart then do
        let (items, p) ← blockItems fuel p.skip
        return (.sequence (collectionKind tag .sequence) items, p)
      else if place ≠ .flow ∧ t matches some .blockMappingStart then do
        let (entries, p) ← blockEntries fuel p.skip
        return (.mapping (collectionKind tag .mapping) entries, p)
      else if anchor.isSome || tag.isSome then .ok (.scalar (scalarKind tag true []) [], p)
      else .error .malformed

/-- Reads the items of an indented block sequence and its end. -/
def blockItems : (fuel : Nat) → Composer → Reading (List Node × Composer)
  | 0, _ => .error .malformed
  | fuel + 1, p =>
    match p.next? with
    | some .blockEntry => do
      let p := p.skip
      let (n, p) ← match p.next? with
        | some .blockEntry | some .blockEnd => pure (absent, p)
        | _ => node .block fuel p
      let (more, p) ← blockItems fuel p
      return (n :: more, p)
    | some .blockEnd => .ok ([], p.skip)
    | _ => .error .malformed

/-- Reads the items of a block sequence that is not indented. -/
def bareItems : (fuel : Nat) → Composer → Reading (List Node × Composer)
  | 0, _ => .error .malformed
  | fuel + 1, p =>
    match p.next? with
    | some .blockEntry => do
      let p := p.skip
      let (n, p) ← match p.next? with
        | some .blockEntry | some .key | some .value | some .blockEnd => pure (absent, p)
        | _ => node .block fuel p
      let (more, p) ← bareItems fuel p
      return (n :: more, p)
    | _ => .ok ([], p)

/-- Reads a key or a value of a block mapping behind its mark. -/
def blockPart : (fuel : Nat) → Composer → Reading (Node × Composer)
  | 0, _ => .error .malformed
  | fuel + 1, p =>
    match p.next? with
    | some .key | some .value | some .blockEnd => .ok (absent, p)
    | _ => node .blockOrEntries fuel p

/-- Reads the entries of a block mapping and its end. -/
def blockEntries : (fuel : Nat) → Composer → Reading (List (Node × Node) × Composer)
  | 0, _ => .error .malformed
  | fuel + 1, p =>
    match p.next? with
    | some .key => do
      let (k, p) ← blockPart fuel p.skip
      blockValue k fuel p
    | some .blockEnd => .ok ([], p.skip)
    | some .value => .error .malformed
    | _ => .error .malformed

/-- Reads the value of a block mapping and the entries behind it. -/
def blockValue (k : Node) : (fuel : Nat) → Composer → Reading (List (Node × Node) × Composer)
  | 0, _ => .error .malformed
  | fuel + 1, p => do
    let (v, p) ← match p.next? with
      | some .value => blockPart fuel p.skip
      | _ => pure (absent, p)
    let (more, p) ← blockEntries fuel p
    return ((k, v) :: more, p)

/-- Reads the items of a flow sequence and its end. -/
def flowItems (first : Bool) : (fuel : Nat) → Composer → Reading (List Node × Composer)
  | 0, _ => .error .malformed
  | fuel + 1, p => do
    match p.next? with
    | some .flowSequenceEnd => return ([], p.skip)
    | t =>
      let p ←
        if first then pure p
        else if t matches some .flowEntry then pure p.skip
        else .error .malformed
      match p.next? with
      | some .flowSequenceEnd => return ([], p.skip)
      | some .key =>
        let (n, p) ← flowPair fuel p.skip
        let (more, p) ← flowItems false fuel p
        return (n :: more, p)
      | _ =>
        let (n, p) ← node .flow fuel p
        let (more, p) ← flowItems false fuel p
        return (n :: more, p)

/-- Reads a single pair in a flow sequence, which is a mapping of its own. -/
def flowPair : (fuel : Nat) → Composer → Reading (Node × Composer)
  | 0, _ => .error .malformed
  | fuel + 1, p => do
    let (k, p) ← match p.next? with
      | some .value | some .flowEntry | some .flowSequenceEnd => pure (absent, p)
      | _ => node .flow fuel p
    let (v, p) ← match p.next? with
      | some .value =>
        match p.skip.next? with
        | some .flowEntry | some .flowSequenceEnd => pure (absent, p.skip)
        | _ => node .flow fuel p.skip
      | _ => pure (absent, p)
    return (.mapping .mapping [(k, v)], p)

/-- Reads the entries of a flow mapping and its end. -/
def flowEntries (first : Bool) :
    (fuel : Nat) → Composer → Reading (List (Node × Node) × Composer)
  | 0, _ => .error .malformed
  | fuel + 1, p => do
    match p.next? with
    | some .flowMappingEnd => return ([], p.skip)
    | t =>
      let p ←
        if first then pure p
        else if t matches some .flowEntry then pure p.skip
        else .error .malformed
      match p.next? with
      | some .flowMappingEnd => return ([], p.skip)
      | some .key =>
        let p := p.skip
        let (k, p) ← match p.next? with
          | some .value | some .flowEntry | some .flowMappingEnd => pure (absent, p)
          | _ => node .flow fuel p
        let (v, p) ← match p.next? with
          | some .value =>
            match p.skip.next? with
            | some .flowEntry | some .flowMappingEnd => pure (absent, p.skip)
            | _ => node .flow fuel p.skip
          | _ => pure (absent, p)
        let (more, p) ← flowEntries false fuel p
        return ((k, v) :: more, p)
      | _ =>
        let (k, p) ← node .flow fuel p
        let (more, p) ← flowEntries false fuel p
        return ((k, absent) :: more, p)

end

/-- Reads the directives in front of a document. -/
def directives (p : Composer) (seen : Bool) : List Token → Reading Composer
  | .version major :: rest =>
    if seen || major != 1 then .error .malformed else directives p true rest
  | .tagHandle handle replacement :: rest =>
    if (p.handles.drop 2).any (·.1 == handle) then .error .malformed
    else directives { p with handles := p.handles ++ [(handle, replacement)] } seen rest
  | .otherDirective :: rest => directives p seen rest
  | tokens => .ok { p with tokens := tokens }

/-- The handles that need no directive. -/
def coreHandles : List (List Char × List Char) := [(['!'], ['!']), (['!', '!'], corePrefix)]

/-- The handles with those of directives in front of the core ones. -/
def settleHandles (p : Composer) : Composer := { p with handles := p.handles.reverse }

/-- Whether the next token is one that a document of no content is followed by. -/
def atDocumentEnd (p : Composer) : Bool :=
  match p.next? with
  | none => true
  | some (.version _) | some (.tagHandle _ _) | some .otherDirective => true
  | some .documentStart | some .documentEnd => true
  | _ => false

/-- The only document of a text, if it has one. -/
def document (tokens : List Token) : Reading (Option Node) := do
  let p : Composer := { tokens := tokens, handles := coreHandles }
  let fuel := 4 * tokens.length + 8
  let explicit := p.atDocumentEnd
  let p := if explicit then
    { p with tokens := p.tokens.dropWhile fun t => t matches .documentEnd } else p
  if p.tokens.isEmpty then return none
  else
    let p ←
      if explicit then do
        let p ← directives p false p.tokens
        match p.next? with
        | some .documentStart => pure p.skip
        | _ => .error .malformed
      else pure p
    let p := p.settleHandles
    let (n, p) ← if explicit && p.atDocumentEnd then pure (absent, p) else node .block fuel p
    let rest := p.tokens.dropWhile fun t => t matches .documentEnd
    if rest.isEmpty then return some n else .error .malformed

end Composer

end OutlineSearch.Yaml
