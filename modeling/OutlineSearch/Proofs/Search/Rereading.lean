import OutlineSearch.Proofs.Search.Cursor
import OutlineSearch.Proofs.Search.RoundTrip

/-!
# Requests are read again from themselves

The arguments that a request gives are in their settled form: nothing in them is null, is a text in
place of a list, or has another spelling than the one that is read. So what is read from them is the
request, whatever it was read from before, and only the limits can refuse it.
-/

namespace OutlineSearch

open OutlineSearch.Schema

/-! ### Entries that stay as they are -/

namespace Value

variable {key name : String} {v value : Value} {es fs : List (Value × Value)}

theorem lookup_cons (k v : Value) (es : List (Value × Value)) (name : String) :
    lookup name ((k, v) :: es) = if k.equals (text name) then some v else lookup name es := by
  unfold lookup
  rw [List.find?_cons]
  cases k with
  | text s =>
    by_cases h : s = name
    · simp [equals, h]
    · simp [equals, beq_false_of_ne h]
  | _ => simp [equals, number?]

theorem lookup_append (es fs : List (Value × Value)) (name : String) :
    lookup name (es ++ fs) = (lookup name es).or (lookup name fs) := by
  induction es with
  | nil => rfl
  | cons e es ih =>
    obtain ⟨k, v⟩ := e
    rw [List.cons_append, lookup_cons, lookup_cons, ih]
    split <;> rfl

theorem putText_cons (key : String) (value k v : Value) (es : List (Value × Value)) :
    putText key value ((k, v) :: es) =
      if k.equals (text key) then (k, value) :: es else (k, v) :: putText key value es := rfl

/-- To put under a key what stands there changes nothing. -/
theorem putText_of_lookup (h : lookup key es = some v) : putText key v es = es := by
  induction es with
  | nil => cases h
  | cons e es ih =>
    obtain ⟨k, w⟩ := e
    rw [lookup_cons] at h
    rw [putText_cons]
    split at h
    · next hk => rw [if_pos hk, Option.some.inj h]
    · next hk => rw [if_neg hk, ih h]

/-- What is put under a key that is not there comes behind. -/
theorem putText_append (h : lookup key es = none) (value : Value) (fs : List (Value × Value)) :
    putText key value (es ++ fs) = es ++ putText key value fs := by
  induction es with
  | nil => rfl
  | cons e es ih =>
    obtain ⟨k, w⟩ := e
    rw [lookup_cons] at h
    split at h
    · cases h
    · next hk => rw [List.cons_append, putText_cons, if_neg hk, ih h, List.cons_append]

theorem forall_mem_putText {P : Value → Prop} (hvalue : P value) (h : ∀ e ∈ es, P e.2) :
    ∀ e ∈ putText key value es, P e.2 := by
  induction es with
  | nil =>
    rw [putText, put]
    exact List.forall_mem_singleton.2 hvalue
  | cons e es ih =>
    obtain ⟨k, w⟩ := e
    obtain ⟨hw, hes⟩ := List.forall_mem_cons.1 h
    rw [putText_cons]
    split
    · exact List.forall_mem_cons.2 ⟨hvalue, hes⟩
    · exact List.forall_mem_cons.2 ⟨hw, ih hes⟩

end Value

namespace SearchRequest

/-! ### Arguments in their settled form -/

section

variable {l : Limits} {es known : List (Value × Value)}

/-- Some entries with null ones behind them. -/
def Padded (es known : List (Value × Value)) : Prop :=
  ∃ nulls : List (Value × Value), known = es ++ nulls ∧ ∀ e ∈ nulls, e.2.isNull = true

theorem padded_self (es : List (Value × Value)) : Padded es es :=
  ⟨[], (List.append_nil es).symm, List.forall_mem_nil _⟩

/-- To put under a key what stands there, or null, adds null entries at most. -/
theorem Padded.putText_get (h : Padded es known) (key : String) :
    Padded es (Value.putText key (Value.get es key) known) := by
  obtain ⟨nulls, rfl, hnulls⟩ := h
  cases hlookup : Value.lookup key es with
  | some v =>
    have hknown : Value.lookup key (es ++ nulls) = some v := by
      rw [Value.lookup_append, hlookup]
      rfl
    rw [Value.get, hlookup, Option.getD_some, Value.putText_of_lookup hknown]
    exact ⟨nulls, rfl, hnulls⟩
  | none =>
    rw [Value.get, hlookup, Option.getD_none, Value.putText_append hlookup]
    exact ⟨_, rfl, Value.forall_mem_putText (P := fun v ↦ v.isNull = true) rfl hnulls⟩

theorem Padded.filter (h : Padded es known) (hes : ∀ e ∈ es, hasValue e = true) :
    known.filter hasValue = es := by
  obtain ⟨nulls, rfl, hnulls⟩ := h
  have hnone : nulls.filter hasValue = [] := by
    rw [List.filter_eq_nil_iff]
    intro e he
    simp [hasValue, hnulls e he]
  rw [List.filter_append, List.filter_eq_self.2 hes, hnone, List.append_nil]

/-- Arguments in which every part is as it would be settled are in their settled form. -/
theorem settle_eq_self (hlimit : limitOf l es = .valid (Value.get es "limit"))
    (hcursor : cursorOf es = Value.get es "cursor")
    (hfilter : unwrapWithin ["tags_all", "tags_any"] (unwrap (Value.get es "filter")) =
      Value.get es "filter")
    (hscope : unwrapWithin ["page_titles"] (unwrap (Value.get es "scope")) = Value.get es "scope")
    (hes : ∀ e ∈ es, hasValue e = true) : settle l es = .valid es := by
  refine settle_eq_valid.2 ⟨_, hlimit, ?_⟩
  rw [settledParts, hcursor, hfilter, hscope]
  have hpadded := ((((padded_self es).putText_get "filter").putText_get "scope").putText_get
    "limit").putText_get "cursor"
  exact hpadded.filter hes

/-- The limit stands among settled arguments when there is one. -/
theorem lookup_limit_of_settle {settled : List (Value × Value)} {limit : Value}
    (hlimit : limitOf l es = .valid limit) (hnull : limit.isNull = false)
    (h : settle l es = .valid settled) : Value.lookup "limit" settled = some limit := by
  obtain ⟨limit', hlimit', rfl⟩ := settle_eq_valid.1 h
  obtain rfl := Checked.valid.inj (hlimit.symm.trans hlimit')
  have hbeside : ((Value.putText "cursor" (cursorOf es) (settledParts limit es)).filter
      hasValue).filter (Value.beside "cursor") =
      ((settledParts limit es).filter hasValue).filter (Value.beside "cursor") := by
    rw [List.filter_comm, Value.filter_beside_put_self, List.filter_comm]
  rw [Value.lookup_eq_of_beside hbeside (by decide)]
  exact Value.lookup_filter_put_self (by simp [hasValue, hnull])

/-- With a limit of its own for requests that name none, the limit of every request is allowed. -/
theorem limit_le {arguments : Value} {r : SearchRequest} {n : Int} (hdefault : l.default = some n)
    (h : ofArguments l arguments = .ok r) : r.limit ≤ l.greatest := by
  have hread := read_of_ofArguments h
  cases arguments with
  | map es =>
    obtain ⟨settled, hsettled, hfields⟩ := Checked.bind_eq_valid.1 hread
    obtain ⟨-, -, -, -, -, -, hfield, -⟩ := readFields_eq_valid.1 hfields
    obtain ⟨limit, hlimit, -⟩ := settle_eq_valid.1 hsettled
    have hnull : limit.isNull = false := by
      unfold limitOf at hlimit
      rw [hdefault] at hlimit
      split at hlimit
      · cases hlimit
        rfl
      · split at hlimit
        · split at hlimit
          · cases hlimit
            rfl
          · cases hlimit
        · cases hlimit
          rfl
      · next v hne htext =>
        obtain rfl := Checked.valid.inj hlimit
        cases hv : Value.get es "limit" with
        | null => exact absurd hv hne
        | _ => rfl
    rw [field, present?, List.findSome?_singleton, lookup_limit_of_settle hlimit hnull hsettled]
      at hfield
    obtain ⟨m, -, hm⟩ := Checked.bind_eq_valid.1 (Checked.under_eq_valid.1 hfield)
    unfold Limits.check at hm
    split at hm
    · next hrange => exact Checked.valid.inj hm ▸ hrange.2
    · cases hm
  | _ => cases hread

end

/-! ### The fields of a request -/

section

variable {α : Type} {read : Value → Checked α} {es : List (Value × Value)} {name own : String}
  {v : Value}

/-- The entries of some fields that have a value. -/
def valuesOf (fields : List (String × Option Value)) : List (Value × Value) :=
  fields.filterMap fun (name, v) => v.map fun v => (.text name, v)

theorem entriesOf_eq (fields : List (String × Option Value)) :
    entriesOf fields = .map (valuesOf fields) := rfl

@[simp] theorem lookup_valuesOf_nil (name : String) : Value.lookup name (valuesOf []) = none := rfl

@[simp] theorem lookup_valuesOf_cons (k : String) (v : Option Value)
    (fields : List (String × Option Value)) (name : String) :
    Value.lookup name (valuesOf ((k, v) :: fields)) =
      if k = name then v.or (Value.lookup name (valuesOf fields))
      else Value.lookup name (valuesOf fields) := by
  cases v with
  | none =>
    change Value.lookup name (valuesOf fields) = _
    split <;> rfl
  | some v =>
    change Value.lookup name ((.text k, v) :: valuesOf fields) = _
    rw [Value.lookup_cons]
    simp only [Value.equals_text_iff, Value.text.injEq, Option.some_or]

theorem hasValue_of_mem_valuesOf {fields : List (String × Option Value)}
    (h : ∀ f ∈ fields, ∀ v, f.2 = some v → v.isNull = false) :
    ∀ e ∈ valuesOf fields, hasValue e = true := by
  intro e he
  obtain ⟨⟨k, o⟩, hf, heq⟩ := List.mem_filterMap.1 he
  obtain ⟨v, hv, rfl⟩ := Option.map_eq_some_iff.1 heq
  simp [hasValue, h (k, o) hf v hv]

theorem field_of_lookup (h : Value.lookup name es = some v) (default : α) :
    field es [name] default read = (read v).under name := by
  rw [field, present?, List.findSome?_singleton, h]
  rfl

theorem field_of_lookup_none (h : Value.lookup name es = none) (default : α) :
    field es [name] default read = .valid default := by
  rw [field, present?, List.findSome?_singleton, h]
  rfl

theorem field_of_valid {a : α} (h : Value.lookup name es = some v) (hread : read v = .valid a)
    (default : α) : field es [name] default read = .valid a := by
  rw [field_of_lookup h, hread]
  rfl

/-- A field that may be absent is read as what was put there. -/
theorem field_of_optional {o : Option α} {w : α → Value} (h : Value.lookup name es = o.map w)
    (hread : ∀ a, o = some a → optional read (w a) = .valid (some a)) :
    field es [name] none (optional read) = .valid o := by
  cases o with
  | none => exact field_of_lookup_none h none
  | some a => exact field_of_valid h (hread a rfl) none

/-- A field that is not there under the name that callers write is looked for under its own. -/
theorem field_of_own (h : Value.lookup name es = none) (default : α) :
    field es [name, own] default read = field es [own] default read := by
  rw [field, field, present?, present?, List.findSome?_cons, h]
  rfl

end

theorem list_texts (ts : List String) : list string (.list (ts.map .text)) = .valid ts := by
  have hlist := Record.list_string ts
  rw [Json.toValue, Value.toValues_eq, List.map_map] at hlist
  exact hlist

theorem optional_texts (ts : List String) :
    Schema.optional (list string) (.list (ts.map .text)) = .valid (some ts) :=
  congrArg (Checked.map some) (list_texts ts)

theorem namedValues_ofProperties (p : Properties) :
    namedValues (Value.ofProperties p) = .valid p := by
  rw [Value.ofProperties, namedValues]
  induction p with
  | nil => rfl
  | cons e p ih =>
    obtain ⟨k, v⟩ := e
    rw [List.map_cons, entries, ih]
    rfl

theorem optional_ofProperties (p : Properties) :
    Schema.optional namedValues (Value.ofProperties p) = .valid (some p) :=
  congrArg (Checked.map some) (namedValues_ofProperties p)

theorem optional_toValue (s : Stamp) : Schema.optional Stamp.read s.toValue = .valid (some s) := by
  cases s <;> rfl

end SearchRequest

/-! ### Scopes and filters -/

open SearchRequest

/-- A scope is read from its own fields. -/
theorem Scope.read_entriesOf (s : Scope) : read (entriesOf s.fields) = .valid s := by
  have hnamespace : field (valuesOf s.fields) ["namespace"] none (optional string) =
      .valid s.namespaceName :=
    field_of_optional (w := .text) (by simp [fields]) fun _ _ ↦ rfl
  have hjournal : field (valuesOf s.fields) ["journal"] none (optional truth) = .valid s.journal :=
    field_of_optional (w := .bool) (by simp [fields]) fun _ _ ↦ rfl
  have htitles : field (valuesOf s.fields) ["page_titles"] none (optional (list string)) =
      .valid s.pageTitles :=
    field_of_optional (w := fun ts ↦ .list (ts.map .text)) (by simp [fields])
      fun ts _ ↦ optional_texts ts
  have htag : field (valuesOf s.fields) ["tag"] none (optional string) = .valid s.tag :=
    field_of_optional (w := .text) (by simp [fields]) fun _ _ ↦ rfl
  rw [read, entriesOf_eq, record, readFields, hnamespace, hjournal, htitles, htag]
  rfl

namespace Filter

/-- The lengths that a filter asks for are lengths. -/
structure Lengths (f : Filter) : Prop where
  lengthMin : ∀ n, f.lengthMin = some n → 0 ≤ n
  lengthMax : ∀ n, f.lengthMax = some n → 1 ≤ n

theorem le_of_atLeast {bound n : Int} {v : Value} (h : atLeast bound v = .valid n) : bound ≤ n := by
  obtain ⟨m, -, hm⟩ := Checked.bind_eq_valid.1 h
  split at hm
  · next hbound => exact Checked.valid.inj hm ▸ hbound
  · cases hm

theorem optional_atLeast {bound n : Int} (h : bound ≤ n) :
    Schema.optional (atLeast bound) (.int n) = .valid (some n) :=
  congrArg (Checked.map some) (if_pos h)

/-- The lengths of a filter that has been read are lengths. -/
theorem lengths_of_read {v : Value} {f : Filter} (h : read v = .valid f) : f.Lengths := by
  cases v with
  | map es =>
    have hfield {bound : Int} {names : List String} {o : Option Int}
        (hread : field es names none (optional (atLeast bound)) = .valid o) :
        ∀ n, o = some n → bound ≤ n := by
      rintro n rfl
      rcases field_eq_valid hread with hnone | ⟨name, v, -, hv⟩
      · cases hnone
      · exact le_of_atLeast (optional_eq_some hv)
    change readFields es = .valid f at h
    simp only [readFields, Checked.functorMap_eq, Checked.seq_eq, Checked.apply_eq_valid,
      Checked.map_eq_valid] at h
    obtain ⟨_, _, ⟨_, _, ⟨_, _, ⟨_, _, ⟨_, _, h, -, rfl⟩, -, rfl⟩, -, rfl⟩, -, rfl⟩, -, rfl⟩ := h
    obtain ⟨_, _, ⟨_, _, ⟨_, _, ⟨_, _, h, -, rfl⟩, -, rfl⟩, -, rfl⟩, -, rfl⟩ := h
    obtain ⟨_, _, ⟨_, _, ⟨_, _, ⟨_, _, h, -, rfl⟩, -, rfl⟩, -, rfl⟩, -, rfl⟩ := h
    obtain ⟨_, lengthMax, ⟨lengthMin, hlengthMin, rfl⟩, hlengthMax, rfl⟩ := h
    exact ⟨hfield hlengthMin, hfield hlengthMax⟩
  | _ => cases h

/-- The fields of a filter by their own names. -/
def ownFields (f : Filter) : List (String × Option Value) :=
  f.fields.map fun x => (x.name, x.value)

section

variable {f : Filter}

theorem field_properties {name : String} {p : Option Properties}
    (h : Value.lookup name (valuesOf f.ownFields) = p.map Value.ofProperties) :
    field (valuesOf f.ownFields) [name] none (optional namedValues) = .valid p :=
  field_of_optional h fun p _ ↦ optional_ofProperties p

theorem field_texts {name : String} {t : Option (List String)}
    (h : Value.lookup name (valuesOf f.ownFields) = t.map fun ts => .list (ts.map .text)) :
    field (valuesOf f.ownFields) [name] none (optional (list string)) = .valid t :=
  field_of_optional h fun ts _ ↦ optional_texts ts

theorem field_stamp {outer own : String} {s : Option Stamp}
    (houter : Value.lookup outer (valuesOf f.ownFields) = none)
    (h : Value.lookup own (valuesOf f.ownFields) = s.map Stamp.toValue) :
    field (valuesOf f.ownFields) [outer, own] none (optional Stamp.read) = .valid s := by
  rw [field_of_own houter]
  exact field_of_optional h fun s _ ↦ optional_toValue s

theorem field_atLeast {outer own : String} {bound : Int} {o : Option Int}
    (hbound : ∀ n, o = some n → bound ≤ n)
    (houter : Value.lookup outer (valuesOf f.ownFields) = none)
    (h : Value.lookup own (valuesOf f.ownFields) = o.map .int) :
    field (valuesOf f.ownFields) [outer, own] none (optional (atLeast bound)) = .valid o := by
  rw [field_of_own houter]
  exact field_of_optional h fun n hn ↦ optional_atLeast (hbound n hn)

theorem field_text {name : String} {s : Option String}
    (h : Value.lookup name (valuesOf f.ownFields) = s.map .text) :
    field (valuesOf f.ownFields) [name] none (optional string) = .valid s :=
  field_of_optional h fun _ _ ↦ rfl

theorem field_ownText {outer own : String} {s : Option String}
    (houter : Value.lookup outer (valuesOf f.ownFields) = none)
    (h : Value.lookup own (valuesOf f.ownFields) = s.map .text) :
    field (valuesOf f.ownFields) [outer, own] none (optional string) = .valid s := by
  rw [field_of_own houter]
  exact field_text h

/-- A filter is read from its own fields. -/
theorem read_entriesOf (h : f.Lengths) : read (entriesOf f.ownFields) = .valid f := by
  rw [entriesOf_eq, read, record, readFields,
    field_atLeast h.lengthMin (by simp [ownFields, fields]) (by simp [ownFields, fields]),
    field_atLeast h.lengthMax (by simp [ownFields, fields]) (by simp [ownFields, fields]),
    field_properties (p := f.propertiesAny) (by simp [ownFields, fields]),
    field_properties (p := f.propertiesAll) (by simp [ownFields, fields]),
    field_texts (t := f.tagsAny) (by simp [ownFields, fields]),
    field_texts (t := f.tagsAll) (by simp [ownFields, fields]),
    field_stamp (s := f.createdAfter) (by simp [ownFields, fields]) (by simp [ownFields, fields]),
    field_stamp (s := f.createdBefore) (by simp [ownFields, fields]) (by simp [ownFields, fields]),
    field_stamp (s := f.updatedAfter) (by simp [ownFields, fields]) (by simp [ownFields, fields]),
    field_stamp (s := f.updatedBefore) (by simp [ownFields, fields]) (by simp [ownFields, fields]),
    field_text (s := f.contains) (by simp [ownFields, fields]),
    field_text (s := f.exclude) (by simp [ownFields, fields]),
    field_ownText (s := f.todoState) (by simp [ownFields, fields]) (by simp [ownFields, fields]),
    field_ownText (s := f.scheduledOn) (by simp [ownFields, fields]) (by simp [ownFields, fields]),
    field_ownText (s := f.deadlinedOn) (by simp [ownFields, fields]) (by simp [ownFields, fields])]
  rfl

end

end Filter

/-! ### Requests -/

namespace SearchRequest

variable {l : Limits} {r : SearchRequest} {arguments : Value}

/-- The fields of a request, its scope and its filter by their own names. -/
def ownFields (r : SearchRequest) : List (String × Option Value) :=
  r.fieldsWith (r.scope.map fun s => entriesOf s.fields)
    (r.filter.map fun f => entriesOf f.ownFields)

theorem toArguments_eq (r : SearchRequest) : r.toArguments = .map (valuesOf r.ownFields) := rfl

/-- To unwrap within a map changes nothing when it changes none of the values under the keys. -/
theorem unwrapWithin_valuesOf {keys : List String} {fields : List (String × Option Value)}
    (h : ∀ f ∈ fields, keys.contains f.1 = true → ∀ v, f.2 = some v → unwrap v = v) :
    unwrapWithin keys (entriesOf fields) = entriesOf fields := by
  rw [entriesOf_eq, unwrapWithin]
  congr 1
  refine (List.map_congr_left fun e he ↦ ?_).trans (List.map_id _)
  obtain ⟨⟨k, o⟩, hf, heq⟩ := List.mem_filterMap.1 he
  obtain ⟨v, hv, rfl⟩ := Option.map_eq_some_iff.1 heq
  dsimp only
  split
  · next hkey => rw [h _ hf hkey v hv, id]
  · rfl

theorem unwrap_texts {o : Option (List String)} {v : Value}
    (h : (o.map fun ts => Value.list (ts.map .text)) = some v) : unwrap v = v := by
  obtain ⟨ts, -, rfl⟩ := Option.map_eq_some_iff.1 h
  rfl

theorem unwrapWithin_scope (s : Scope) :
    unwrapWithin ["page_titles"] (entriesOf s.fields) = entriesOf s.fields := by
  refine unwrapWithin_valuesOf ?_
  simp only [Scope.fields, List.forall_mem_cons]
  refine ⟨?_, ?_, fun _ v hv ↦ unwrap_texts hv, ?_, List.forall_mem_nil _⟩ <;>
    exact fun hkey ↦ absurd hkey (by decide)

theorem unwrapWithin_filter (f : Filter) :
    unwrapWithin ["tags_all", "tags_any"] (entriesOf f.ownFields) = entriesOf f.ownFields := by
  refine unwrapWithin_valuesOf ?_
  simp only [Filter.ownFields, Filter.fields, List.map_cons, List.forall_mem_cons]
  refine ⟨?_, ?_, ?_, ?_, fun _ v hv ↦ unwrap_texts hv, fun _ v hv ↦ unwrap_texts hv, ?_, ?_, ?_,
    ?_, ?_, ?_, ?_, ?_, ?_, List.forall_mem_nil _⟩ <;>
    exact fun hkey ↦ absurd hkey (by decide)

/-- The arguments that a request gives are in their settled form. -/
theorem settle_valuesOf (l : Limits) (r : SearchRequest) :
    settle l (valuesOf r.ownFields) = .valid (valuesOf r.ownFields) := by
  have hlimit : Value.get (valuesOf r.ownFields) "limit" = .int r.limit := by
    simp [Value.get, ownFields, fieldsWith]
  have hcursor : Value.get (valuesOf r.ownFields) "cursor" = (r.cursor.map .text).getD .null := by
    simp [Value.get, ownFields, fieldsWith]
  have hscope : Value.get (valuesOf r.ownFields) "scope" =
      (r.scope.map fun s => entriesOf s.fields).getD .null := by
    simp [Value.get, ownFields, fieldsWith]
  have hfilter : Value.get (valuesOf r.ownFields) "filter" =
      (r.filter.map fun f => entriesOf f.ownFields).getD .null := by
    simp [Value.get, ownFields, fieldsWith]
  refine settle_eq_self ?_ ?_ ?_ ?_ (hasValue_of_mem_valuesOf ?_)
  · rw [limitOf, hlimit]
  · rw [cursorOf, hcursor]
    cases r.cursor <;> rfl
  · rw [hfilter]
    cases r.filter with
    | none => rfl
    | some f => exact unwrapWithin_filter f
  · rw [hscope]
    cases r.scope with
    | none => rfl
    | some s => exact unwrapWithin_scope s
  · have hmap {α : Type} {o : Option α} {w : α → Value} (hw : ∀ a, (w a).isNull = false) :
        ∀ v, o.map w = some v → v.isNull = false := by
      intro v hv
      obtain ⟨a, -, rfl⟩ := Option.map_eq_some_iff.1 hv
      exact hw a
    have hsome {w : Value} (hw : w.isNull = false) : ∀ v, some w = some v → v.isNull = false :=
      fun v hv ↦ Option.some.inj hv ▸ hw
    simp only [ownFields, fieldsWith, List.forall_mem_cons]
    exact ⟨hmap fun _ ↦ rfl, hsome rfl, hmap fun _ ↦ rfl, hmap fun _ ↦ rfl, hsome rfl, hsome rfl,
      hsome rfl, hmap fun _ ↦ rfl, hsome rfl, List.forall_mem_nil _⟩

theorem choice_target (t : Target) : choice Target.named (.text t.name) = .valid t := by
  cases t <;> rfl

theorem choice_sort (k : SortKey) : choice SortKey.named (.text k.name) = .valid k := by
  cases k <;> rfl

theorem choice_order (o : SortOrder) : choice SortOrder.named (.text o.name) = .valid o := by
  cases o <;> rfl

/-- What is read from a request is the request, if the limits allow its limit. -/
theorem read_toArguments (l : Limits) (hfilter : ∀ f, r.filter = some f → f.Lengths) :
    SearchRequest.read l r.toArguments =
      ((l.check r.limit).under "limit").map fun n => { r with limit := n } := by
  have hquery : field (valuesOf r.ownFields) ["query"] none (optional string) = .valid r.query :=
    field_of_optional (w := .text) (by simp [ownFields, fieldsWith]) fun _ _ ↦ rfl
  have htarget : field (valuesOf r.ownFields) ["target"] .both (choice Target.named) =
      .valid r.target :=
    field_of_valid (v := .text r.target.name) (by simp [ownFields, fieldsWith])
      (choice_target r.target) _
  have hscope : field (valuesOf r.ownFields) ["scope"] none (optional Scope.read) =
      .valid r.scope :=
    field_of_optional (w := fun s ↦ entriesOf s.fields) (by simp [ownFields, fieldsWith])
      fun s _ ↦ congrArg (Checked.map some) s.read_entriesOf
  have hfilter : field (valuesOf r.ownFields) ["filter"] none (optional Filter.read) =
      .valid r.filter :=
    field_of_optional (w := fun f ↦ entriesOf f.ownFields) (by simp [ownFields, fieldsWith])
      fun f hf ↦ congrArg (Checked.map some) (Filter.read_entriesOf (hfilter f hf))
  have hsort : field (valuesOf r.ownFields) ["sort"] .relevance (choice SortKey.named) =
      .valid r.sort :=
    field_of_valid (v := .text r.sort.name) (by simp [ownFields, fieldsWith])
      (choice_sort r.sort) _
  have horder : field (valuesOf r.ownFields) ["order"] .descending (choice SortOrder.named) =
      .valid r.order :=
    field_of_valid (v := .text r.order.name) (by simp [ownFields, fieldsWith])
      (choice_order r.order) _
  have hlimit : field (valuesOf r.ownFields) ["limit"] 20 (fun v => (integer v).bind l.check) =
      (l.check r.limit).under "limit" :=
    field_of_lookup (v := .int r.limit) (by simp [ownFields, fieldsWith]) _
  have hcursor : field (valuesOf r.ownFields) ["cursor"] none (optional string) =
      .valid r.cursor :=
    field_of_optional (w := .text) (by simp [ownFields, fieldsWith]) fun _ _ ↦ rfl
  have hstrict : field (valuesOf r.ownFields) ["strict"] false truth = .valid r.strict :=
    field_of_valid (v := .bool r.strict) (by simp [ownFields, fieldsWith])
      (show truth (.bool r.strict) = .valid r.strict from rfl) _
  rw [toArguments_eq, SearchRequest.read, record, settle_valuesOf, Checked.bind, readFields, hquery,
    htarget, hscope, hfilter, hsort, horder, hlimit, hcursor, hstrict]
  cases l.check r.limit <;> rfl

/-- The lengths of the filter of a request that has been read are lengths. -/
theorem lengths_of_ofArguments (h : ofArguments l arguments = .ok r) :
    ∀ f, r.filter = some f → f.Lengths := by
  have hread := read_of_ofArguments h
  cases arguments with
  | map es =>
    obtain ⟨settled, -, hfields⟩ := Checked.bind_eq_valid.1 hread
    obtain ⟨-, -, -, hfilter, -⟩ := readFields_eq_valid.1 hfields
    intro f hf
    rw [hf] at hfilter
    rcases field_eq_valid hfilter with hnone | ⟨-, v, -, hv⟩
    · cases hnone
    · exact Filter.lengths_of_read (optional_eq_some hv)
  | _ => cases hread

/-- The refusal of a limit. -/
def limitRefusal (greatest : Int) : Fault :=
  .invalidArgument
    s!"Invalid search request: limit: Value error, limit must be between 1 and {greatest}"

/-- A value refused under a name gives one issue. -/
theorem under_refuse {α : Type} (name message : String) :
    (Checked.refuse message : Checked α).under name = .invalid [⟨[name], message⟩] := rfl

/-- The line of an issue under a name begins with the name. -/
theorem line_under {name : String} (hname : name.isEmpty = false) (whole message : String) :
    Issue.line whole ⟨[name], message⟩ = name ++ ": " ++ message := by
  rw [Issue.line, String.intercalate_singleton, hname, if_neg Bool.false_ne_true]
  rfl

/-- Under other limits a request that has been read is read as itself, or its limit is refused. -/
theorem again_eq (h : ofArguments l arguments = .ok r) (l' : Limits) :
    r.again l' = if r.limit ≤ l'.greatest then .ok r else .error (limitRefusal l'.greatest) := by
  rw [again, ofArguments, read_toArguments l' (lengths_of_ofArguments h), Limits.check]
  by_cases hlimit : r.limit ≤ l'.greatest
  · rw [if_pos ⟨limit_pos h, hlimit⟩, if_pos hlimit]
    rfl
  · rw [if_neg fun hrange ↦ hlimit hrange.2, if_neg hlimit]
    have hname : "limit".isEmpty = false := by decide
    rw [under_refuse, Checked.map]
    dsimp only
    rw [List.map_singleton, line_under hname, String.intercalate_singleton, limitRefusal]
    simp only [← String.append_assoc]
    rfl

/-- A request that has been read has a limit that the settings allow. Read from itself under the
same settings it is the same request with the same digest, and under any other settings too, unless
these do not allow its limit: then it is refused. -/
theorem reread_of_ofArguments {s : Settings} (h : ofArguments (.ofSettings s) arguments = .ok r) :
    (1 ≤ r.limit ∧ r.limit ≤ s.maxLimit) ∧
    r.again (.ofSettings s) = .ok r ∧
    (r.again (.ofSettings s)).bind shapeDigest = r.shapeDigest ∧
    ∀ s' : Settings, r.again (.ofSettings s') =
      if r.limit ≤ s'.maxLimit then .ok r else .error (limitRefusal s'.maxLimit) := by
  have hle : r.limit ≤ s.maxLimit := limit_le rfl h
  have hagain : r.again (.ofSettings s) = .ok r := (again_eq h _).trans (if_pos hle)
  refine ⟨⟨limit_pos h, hle⟩, hagain, ?_, fun s' ↦ again_eq h _⟩
  rw [hagain]
  rfl

/-- Arguments with a list and numbers that are texts, and a cursor that is a number. -/
def spelledArguments : List (Value × Value) :=
  [(.text "query", .text "a"),
    (.text "filter", .map [(.text "tags_all", .text "[\"x\"]"), (.text "lengthMin", .text "1")]),
    (.text "limit", .text " 30"), (.text "cursor", .int 3)]

/-- What is read from these arguments. -/
def spelledRequest : SearchRequest where
  query := some "a"
  filter := some { lengthMin := some 1, tagsAll := some ["x"] }
  limit := 30
  cursor := some "3"

theorem ofArguments_spelledArguments :
    ofArguments (.ofSettings {}) (.map spelledArguments) = .ok spelledRequest := by
  have hlimit : limitOf (.ofSettings {}) spelledArguments = .valid (.int 30) := rfl
  have hfilter : unwrapWithin ["tags_all", "tags_any"]
      (unwrap (Value.get spelledArguments "filter")) =
      .map [(.text "tags_all", .list [.text "x"]), (.text "lengthMin", .text "1")] := rfl
  have hscope : unwrapWithin ["page_titles"] (unwrap (Value.get spelledArguments "scope")) =
      .null := rfl
  have hcursor : cursorOf spelledArguments = .text "3" := rfl
  have hsettle : settle (.ofSettings {}) spelledArguments = .valid
      [(.text "query", .text "a"),
        (.text "filter",
          .map [(.text "tags_all", .list [.text "x"]), (.text "lengthMin", .text "1")]),
        (.text "limit", .int 30), (.text "cursor", .text "3")] := by
    refine settle_eq_valid.2 ⟨_, hlimit, ?_⟩
    rw [settledParts, hfilter, hscope, hcursor]
    simp [spelledArguments, Value.putText, Value.put, Value.equals, hasValue, Value.isNull]
  rw [ofArguments, SearchRequest.read, record, hsettle]
  rfl

theorem reread_spelledRequest :
    ofArguments (.ofSettings {}) (.map spelledArguments) = .ok spelledRequest ∧
    spelledRequest.again (.ofSettings {}) = .ok spelledRequest ∧
    spelledRequest.again (.ofSettings { maxLimit := 29 }) = .error (limitRefusal 29) := by
  obtain ⟨-, hagain, -, hother⟩ := reread_of_ofArguments ofArguments_spelledArguments
  exact ⟨ofArguments_spelledArguments, hagain, hother { maxLimit := 29 }⟩

end SearchRequest

end OutlineSearch
