import OutlineSearch.Record
import OutlineSearch.Calendar.Spelling
import OutlineSearch.Outline.Property
import OutlineSearch.Outline.Tag
import OutlineSearch.Search.PropertyMatch

/-!
# Filters

A filter keeps the records whose length, properties, tags, dates, text and task fields are the
wanted ones. Every part of a filter is a clause of its own, and an absent part keeps everything. The
clauses are looked at in a fixed order, and the first that fails decides.
-/

namespace OutlineSearch

open OutlineSearch.Schema OutlineSearch.Text

/-- What the records of a search have to satisfy; an absent part asks nothing. -/
structure Filter where
  lengthMin : Option Int := none
  lengthMax : Option Int := none
  propertiesAny : Option Properties := none
  propertiesAll : Option Properties := none
  tagsAny : Option (List String) := none
  tagsAll : Option (List String) := none
  createdAfter : Option Stamp := none
  createdBefore : Option Stamp := none
  updatedAfter : Option Stamp := none
  updatedBefore : Option Stamp := none
  contains : Option String := none
  exclude : Option String := none
  todoState : Option String := none
  scheduledOn : Option String := none
  deadlinedOn : Option String := none
deriving Repr, Inhabited

namespace Filter

/-- Reads the fields of a filter. -/
def readFields (es : List (Value × Value)) : Checked Filter :=
  mk <$> field es ["lengthMin", "length_min"] none (optional (atLeast 0))
    <*> field es ["lengthMax", "length_max"] none (optional (atLeast 1))
    <*> field es ["properties_any"] none (optional namedValues)
    <*> field es ["properties_all"] none (optional namedValues)
    <*> field es ["tags_any"] none (optional (list string))
    <*> field es ["tags_all"] none (optional (list string))
    <*> field es ["createdAfter", "created_after"] none (optional Stamp.read)
    <*> field es ["createdBefore", "created_before"] none (optional Stamp.read)
    <*> field es ["updatedAfter", "updated_after"] none (optional Stamp.read)
    <*> field es ["updatedBefore", "updated_before"] none (optional Stamp.read)
    <*> field es ["contains"] none (optional string)
    <*> field es ["exclude"] none (optional string)
    <*> field es ["todoState", "todo_state"] none (optional string)
    <*> field es ["scheduledOn", "scheduled_on"] none (optional string)
    <*> field es ["deadlinedOn", "deadlined_on"] none (optional string)

/-- Reads a filter. -/
def read (v : Value) : Checked Filter := record "SearchFilter" readFields v

/-- A field of a filter by its own name, the name under which callers write it, and its value. -/
structure Field where
  name : String
  outerName : String
  value : Option Value

/-- The fields of a filter. -/
def fields (f : Filter) : List Field :=
  let strings (ts : List String) : Value := .list (ts.map .text)
  [⟨"length_min", "lengthMin", f.lengthMin.map .int⟩,
    ⟨"length_max", "lengthMax", f.lengthMax.map .int⟩,
    ⟨"properties_any", "properties_any", f.propertiesAny.map Value.ofProperties⟩,
    ⟨"properties_all", "properties_all", f.propertiesAll.map Value.ofProperties⟩,
    ⟨"tags_any", "tags_any", f.tagsAny.map strings⟩,
    ⟨"tags_all", "tags_all", f.tagsAll.map strings⟩,
    ⟨"created_after", "createdAfter", f.createdAfter.map Stamp.toValue⟩,
    ⟨"created_before", "createdBefore", f.createdBefore.map Stamp.toValue⟩,
    ⟨"updated_after", "updatedAfter", f.updatedAfter.map Stamp.toValue⟩,
    ⟨"updated_before", "updatedBefore", f.updatedBefore.map Stamp.toValue⟩,
    ⟨"contains", "contains", f.contains.map .text⟩,
    ⟨"exclude", "exclude", f.exclude.map .text⟩,
    ⟨"todo_state", "todoState", f.todoState.map .text⟩,
    ⟨"scheduled_on", "scheduledOn", f.scheduledOn.map .text⟩,
    ⟨"deadlined_on", "deadlinedOn", f.deadlinedOn.map .text⟩]

/-- Whether the property of a record under a name is the wanted one. -/
def hasProperty (r : Record) (key : String) (wanted : Value) : Outcome Bool :=
  ((r.properties.findValue? key).getD .null).matchesWanted wanted

/-- Whether a record has all wanted properties, if any are wanted. -/
def keepsAllProperties (wanted : Option Properties) (r : Record) : Outcome Bool :=
  .all ((wanted.getD []).map fun (key, v) => hasProperty r key v)

/-- Whether a record has one of the wanted properties, if any are wanted. -/
def keepsAnyProperty (wanted : Option Properties) (r : Record) : Outcome Bool :=
  match wanted.getD [] with
  | [] => .ok true
  | wishes => .any (wishes.map fun (key, v) => hasProperty r key v)

/-- Whether a record has a tag. -/
def hasTag (r : Record) (tag : String) : Bool := r.tags.contains (Outline.normalizeTag tag)

/-- Whether a record has one of the wanted tags, if any are wanted. -/
def keepsAnyTag (wanted : Option (List String)) (r : Record) : Bool :=
  let tags := wanted.getD []
  tags.isEmpty || tags.any (hasTag r)

/-- Whether one time stands to another as asked; without two times that can be read there is nothing
to ask. -/
def compareTimes (test : Binary64 → Binary64 → Bool) (value bound : Option Stamp) :
    Outcome Bool :=
  match bound with
  | none => .ok true
  | some b => do
    let x ← Spelling.millis (Stamp.valueOf value)
    let y ← Spelling.millis b.toValue
    match x, y with
    | some x, some y => return test x y
    | _, _ => return true

/-- Whether a time lies after a bound. -/
def after (value bound : Option Stamp) : Outcome Bool :=
  compareTimes (fun x y => y.less x) value bound

/-- Whether a time lies before a bound. -/
def before (value bound : Option Stamp) : Outcome Bool := compareTimes Binary64.less value bound

/-- A test of a string that says something; without one everything passes. -/
def ifSpoken (s : Option String) (test : String → Bool) : Bool :=
  (s.filter (!·.isEmpty)).all test

/-- Whether a task has the wanted state and times; other records have none. -/
def keepsTask (f : Filter) (r : Record) : Bool :=
  match r.detail with
  | .task _ status scheduled deadline =>
    (ifSpoken f.todoState fun state => lowered status == lowered (trimmed state)) &&
      (ifSpoken f.scheduledOn fun day => startsWith (scheduled.getD "").toList day.toList) &&
      (ifSpoken f.deadlinedOn fun day => startsWith (deadline.getD "").toList day.toList)
  | _ => true

/-- The answers of the clauses of a filter for a record. -/
def clauses (f : Filter) (r : Record) : List (Outcome Bool) :=
  let text := r.primaryText
  [.ok (f.lengthMin.all fun n => n ≤ (text.length : Int)),
    .ok (f.lengthMax.all fun n => (text.length : Int) ≤ n),
    keepsAllProperties f.propertiesAll r, keepsAnyProperty f.propertiesAny r,
    .ok ((f.tagsAll.getD []).all (hasTag r)), .ok (keepsAnyTag f.tagsAny r),
    after r.created f.createdAfter, before r.created f.createdBefore,
    after r.updated f.updatedAfter, before r.updated f.updatedBefore,
    .ok (ifSpoken f.contains fun part => Text.contains (lowered text) (lowered part)),
    .ok (ifSpoken f.exclude fun part => !Text.contains (lowered text) (lowered part)),
    .ok (f.keepsTask r)]

/-- Whether a filter keeps a record. -/
def keeps (f : Filter) (r : Record) : Outcome Bool := .all (f.clauses r)

/-- The records that a filter keeps. -/
def apply (filter : Option Filter) (records : List Record) : Outcome (List Record) :=
  match filter with
  | none => .ok records
  | some f => Outcome.filter f.keeps records

end Filter

end OutlineSearch
