import OutlineSearch.Proofs.Search.Arguments

/-!
# Arguments that are no request

The readers of a schema refuse what they cannot read, and none of them breaks off. So arguments that
are no request are always answered as invalid arguments.
-/

namespace OutlineSearch

open OutlineSearch.Schema

namespace Checked

variable {α β : Type}

/-- A check that comes to its end, with what was read or with issues. -/
inductive Ends : Checked α → Prop where
  | valid (a : α) : Ends (.valid a)
  | invalid (issues : List Issue) : Ends (.invalid issues)

theorem ends_refuse (message : String) : (refuse message : Checked α).Ends := .invalid _

theorem Ends.map {c : Checked α} (h : c.Ends) (f : α → β) : (c.map f).Ends := by
  cases h with
  | valid a => exact .valid (f a)
  | invalid issues => exact .invalid issues

theorem Ends.under {c : Checked α} (h : c.Ends) (name : String) : (c.under name).Ends := by
  cases h with
  | valid a => exact .valid a
  | invalid issues => exact .invalid _

theorem Ends.bind {c : Checked α} {f : α → Checked β} (h : c.Ends) (hf : ∀ a, (f a).Ends) :
    (c.bind f).Ends := by
  cases h with
  | valid a => exact hf a
  | invalid issues => exact .invalid issues

theorem Ends.apply {f : Checked (α → β)} {c : Checked α} (hf : f.Ends) (h : c.Ends) :
    (f.apply c).Ends := by
  cases hf with
  | valid f =>
    cases h with
    | valid a => exact .valid (f a)
    | invalid issues => exact .invalid issues
  | invalid issues =>
    cases h with
    | valid a => exact .invalid issues
    | invalid more => exact .invalid (issues ++ more)

theorem ends_items {check : α → Checked β} (h : ∀ a, (check a).Ends) (index : Nat) (as : List α) :
    (items check index as).Ends := by
  induction as generalizing index with
  | nil => exact .valid []
  | cons a rest ih => exact (((h a).under _).map _).apply (ih _)

end Checked

open Checked

namespace Schema

variable {α : Type}

theorem ends_string (v : Value) : (string v).Ends := by
  unfold string
  split
  · exact .valid _
  · split
    · exact .valid _
    · exact ends_refuse _
  · exact ends_refuse _

theorem ends_wholeFloat (x : Binary64) : (wholeFloat x).Ends := by
  unfold wholeFloat
  split
  · exact ends_refuse _
  · split
    · exact ends_refuse _
    · split
      · exact .valid _
      · exact ends_refuse _

theorem ends_integer (v : Value) : (integer v).Ends := by
  unfold integer
  split
  · exact .valid _
  · exact .valid _
  · exact ends_wholeFloat _
  · split
    · exact .valid _
    · exact ends_refuse _
    · exact ends_refuse _
  · exact ends_refuse _

theorem ends_truth (v : Value) : (truth v).Ends := by
  have hdoubtful (n : Int) : (if n = 0 then Checked.valid false else if n = 1 then .valid true
      else .refuse "Input should be a valid boolean, unable to interpret input").Ends := by
    split
    · exact .valid false
    · split
      · exact .valid true
      · exact ends_refuse _
  unfold truth
  split
  · exact .valid _
  · split
    · exact hdoubtful _
    · exact ends_refuse _
  · split
    · exact hdoubtful _
    · exact ends_refuse _
  · dsimp only
    split
    · exact .valid true
    · split
      · exact .valid false
      · exact ends_refuse _
  · exact ends_refuse _

theorem ends_optional {read : Value → Checked α} (h : ∀ v, (read v).Ends) (v : Value) :
    (optional read v).Ends := by
  unfold optional
  split
  · exact .valid none
  · exact (h v).map some

theorem ends_list {read : Value → Checked α} (h : ∀ v, (read v).Ends) (v : Value) :
    (list read v).Ends := by
  unfold list
  split
  · exact ends_items h 0 _
  · exact ends_items h 0 _
  · exact ends_items h 0 _
  · exact ends_refuse _

theorem ends_entries (es : List (Value × Value)) : (entries es).Ends := by
  induction es with
  | nil => exact .valid []
  | cons e rest ih =>
    obtain ⟨k, v⟩ := e
    exact ((((ends_string k).map _).under _).under _).apply ih

theorem ends_namedValues (v : Value) : (namedValues v).Ends := by
  unfold namedValues
  split
  · exact ends_entries _
  · exact ends_refuse _

theorem ends_choice (named : List (String × α)) (v : Value) : (choice named v).Ends := by
  unfold choice
  dsimp only
  split
  · exact .valid _
  · exact ends_refuse _

theorem ends_atLeast (bound : Int) (v : Value) : (atLeast bound v).Ends := by
  refine (ends_integer v).bind fun n ↦ ?_
  split
  · exact .valid n
  · exact ends_refuse _

theorem ends_field {read : Value → Checked α} (h : ∀ v, (read v).Ends) (es : List (Value × Value))
    (names : List String) (default : α) : (field es names default read).Ends := by
  unfold field
  split
  · exact (h _).under _
  · exact .valid default

theorem ends_record {read : List (Value × Value) → Checked α} (h : ∀ es, (read es).Ends)
    (name : String) (v : Value) : (record name read v).Ends := by
  unfold record
  split
  · exact h _
  · exact ends_refuse _

end Schema

theorem Stamp.ends_read (v : Value) : (read v).Ends := by
  unfold read
  split
  · exact .valid _
  · exact .valid _
  · exact .valid _
  · exact .valid _
  · split
    · exact .valid _
    · exact .valid _
    · exact .valid _
    · exact .invalid _
    · exact ends_refuse _

/-! ### Requests -/

theorem Scope.ends_readFields (es : List (Value × Value)) : (readFields es).Ends := by
  have hstring (names : List String) : (field es names none (optional string)).Ends :=
    ends_field (ends_optional ends_string) es names none
  simp only [readFields, functorMap_eq, seq_eq]
  exact ((((hstring _).map _).apply (ends_field (ends_optional ends_truth) es _ _)).apply
    (ends_field (ends_optional (ends_list ends_string)) es _ _)).apply (hstring _)

theorem Filter.ends_readFields (es : List (Value × Value)) : (readFields es).Ends := by
  have hlength (bound : Int) (names : List String) :
      (field es names none (optional (atLeast bound))).Ends :=
    ends_field (ends_optional (ends_atLeast bound)) es names none
  have hproperties (names : List String) : (field es names none (optional namedValues)).Ends :=
    ends_field (ends_optional ends_namedValues) es names none
  have htags (names : List String) : (field es names none (optional (list string))).Ends :=
    ends_field (ends_optional (ends_list ends_string)) es names none
  have hstamp (names : List String) : (field es names none (optional Stamp.read)).Ends :=
    ends_field (ends_optional Stamp.ends_read) es names none
  have hstring (names : List String) : (field es names none (optional string)).Ends :=
    ends_field (ends_optional ends_string) es names none
  simp only [readFields, functorMap_eq, seq_eq]
  refine .apply (.apply (.apply (.apply (.apply ?_ (hstring _)) (hstring _)) (hstring _))
    (hstring _)) (hstring _)
  refine .apply (.apply (.apply (.apply ?_ (hstamp _)) (hstamp _)) (hstamp _)) (hstamp _)
  refine .apply (.apply (.apply (.apply ?_ (hproperties _)) (hproperties _)) (htags _)) (htags _)
  exact .apply (.map (hlength 0 _) mk) (hlength 1 _)

theorem Limits.ends_check (l : Limits) (n : Int) : (l.check n).Ends := by
  unfold check
  split
  · exact .valid n
  · exact ends_refuse _

namespace SearchRequest

variable (l : Limits)

theorem ends_limitOf (es : List (Value × Value)) : (limitOf l es).Ends := by
  unfold limitOf
  split
  · exact .valid _
  · split
    · split
      · exact .valid _
      · exact ends_refuse _
    · exact .valid _
  · exact .valid _

theorem ends_readFields (es : List (Value × Value)) : (readFields l es).Ends := by
  have hstring (names : List String) : (field es names none (optional string)).Ends :=
    ends_field (ends_optional ends_string) es names none
  have hscope (v : Value) : (Scope.read v).Ends := ends_record Scope.ends_readFields _ v
  have hfilter (v : Value) : (Filter.read v).Ends := ends_record Filter.ends_readFields _ v
  have hlimit (v : Value) : ((integer v).bind l.check).Ends := (ends_integer v).bind l.ends_check
  simp only [readFields, functorMap_eq, seq_eq]
  refine .apply (.apply (.apply ?_ (ends_field hlimit es _ _)) (hstring _))
    (ends_field ends_truth es _ _)
  refine .apply (.apply ?_ (ends_field (ends_choice SortKey.named) es _ _))
    (ends_field (ends_choice SortOrder.named) es _ _)
  refine .apply (.apply ?_ (ends_field (ends_optional hscope) es _ _))
    (ends_field (ends_optional hfilter) es _ _)
  exact .apply (.map (hstring _) mk) (ends_field (ends_choice Target.named) es _ _)

theorem ends_read (v : Value) : (read l v).Ends :=
  ends_record (fun es ↦ ((ends_limitOf l es).map _).bind (ends_readFields l)) _ v

/-- Arguments that are no request are told to be invalid. -/
theorem exists_of_ofArguments {arguments : Value} {fault : Fault}
    (h : ofArguments l arguments = .error fault) : ∃ message, fault = .invalidArgument message := by
  have hends := ends_read l arguments
  unfold ofArguments at h
  generalize read l arguments = c at h hends
  cases hends with
  | valid r => cases h
  | invalid issues =>
    cases h
    exact ⟨_, rfl⟩

end SearchRequest

end OutlineSearch
