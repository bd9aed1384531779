import OutlineSearch.Proofs.Number.Exactness
import OutlineSearch.Proofs.Search.Clauses
import OutlineSearch.Proofs.Search.Leaves

/-!
# Wanted integers

A wanted integer is compared as a number of 64 bits, and so is a property that is an integer or its
decimal form. So what counts is whether both integers are rounded to the same number; up to
`2 ^ 53` this is whether they are the same integer.
-/

namespace OutlineSearch

open OutlineSearch.Binary64 OutlineSearch.Number OutlineSearch.Outcome

namespace Value

/-- A value that gives an integer: the integer itself, which must not be out of range, or its
decimal form. -/
inductive Gives : Value → Int → Prop where
  | number {n : Int} (h : ¬OutOfRange n) : Gives (int n) n
  | decimal (n : Int) : Gives (text (toString n)) n

/-- An integer that is not out of range is made a number of 64 bits. -/
theorem toFloat?_int {n : Int} (h : ¬OutOfRange n) : (int n).toFloat? = .ok (some (ofInt n)) := by
  have hsome := ofInt?_eq_some h
  generalize ofInt n = x at hsome ⊢
  obtain ⟨nearest?, hnearest⟩ : ∃ f, f = ofInt? := ⟨_, rfl⟩
  rw [← hnearest] at hsome
  rw [toFloat?.eq_def, ← hnearest]
  dsimp only
  rw [hsome]

variable {v : Value} {a b : Int}

theorem Gives.toFloat?_eq (h : v.Gives a) : v.toFloat? = .ok (some (ofInt a)) := by
  cases h with
  | number h => exact toFloat?_int h
  | decimal => exact congrArg Except.ok (readFloat?_toString a)

/-- A wanted integer is compared with an integer as numbers of 64 bits. -/
theorem Gives.matchesWanted_eq (h : v.Gives a) (hb : ¬OutOfRange b) :
    v.matchesWanted (int b) = .ok ((ofInt a).equals (ofInt b)) := by
  have hsame : sameAsNumber v (int b) = .ok ((ofInt a).equals (ofInt b)) := by
    rw [sameAsNumber, h.toFloat?_eq, toFloat?_int hb]
    rfl
  rw [← hsame, Value.matchesWanted_eq]
  cases h <;> rfl

end Value

open Value

/-- The filter for the records with a property. -/
def Filter.wanting (key : String) (wanted : Value) : Filter where
  propertiesAll := some [(key, wanted)]

/-- A filter for one property answers as the comparison with it does. -/
theorem Filter.keeps_wanting {r : Record} {key : String} {v : Value}
    (h : r.properties.findValue? key = some v) (wanted : Value) :
    (wanting key wanted).keeps r = v.matchesWanted wanted := by
  have hproperty : keepsAllProperties (some [(key, wanted)]) r = v.matchesWanted wanted := by
    simp [keepsAllProperties, hasProperty, h]
  refine keeps_eq_of_forall ?_ ?_
  · simp [clauses, wanting, hproperty]
  · simp [clauses, wanting, hproperty, keepsTask_of_none]

/-- A property that gives an integer is compared with a wanted integer without a fault, and so does
the filter for it. The answer is yes exactly when both are rounded to one number of 64 bits: always
for an integer and itself, and for no other one up to `2 ^ 53`. -/
theorem wanted_integer {v : Value} {a b : Int} (h : v.Gives a) (hb : ¬OutOfRange b) :
    (∀ (r : Record) (key : String), r.properties.findValue? key = some v →
      (Filter.wanting key (.int b)).keeps r = v.matchesWanted (.int b)) ∧
    (v.matchesWanted (.int b)).Decides ((ofInt a).equals (ofInt b) = true) ∧
    (a = b → v.matchesWanted (.int b) = .ok true) ∧
    (Distinguished a b → (v.matchesWanted (.int b)).Decides (a = b)) := by
  have hdecides : (v.matchesWanted (.int b)).Decides ((ofInt a).equals (ofInt b) = true) :=
    ⟨_, h.matchesWanted_eq hb, Iff.rfl⟩
  refine ⟨fun r key hr ↦ Filter.keeps_wanting hr _, hdecides, fun hab ↦ ?_,
    fun hdistinct ↦ hdecides.congr hdistinct.equals_iff⟩
  subst hab
  exact hdecides.eq_ok_true_iff.2 (equals_ofInt_self a)

/-- A page whose property is seven is kept where seven is wanted and not where eight is, and minus
twelve in decimal form is minus twelve. -/
theorem countedPage_wanted :
    (Filter.wanting "k" (.int 7)).keeps (countedPage 7) = .ok true ∧
    (Filter.wanting "k" (.int 8)).keeps (countedPage 7) = .ok false ∧
    (text (toString (-12 : Int))).matchesWanted (.int (-12)) = .ok true := by
  have hseven : (int 7).Gives 7 := .number (not_outOfRange (by decide))
  obtain ⟨hkeeps, -, hself, -⟩ := wanted_integer hseven (b := 7) (not_outOfRange (by decide))
  obtain ⟨hkeeps', -, -, hother⟩ := wanted_integer hseven (b := 8) (not_outOfRange (by decide))
  obtain ⟨-, -, htwelve, -⟩ :=
    wanted_integer (.decimal (-12)) (b := -12) (not_outOfRange (by decide))
  obtain ⟨answer, hanswer, hiff⟩ := hother (.inr (.inl (by decide)))
  refine ⟨(hkeeps _ _ rfl).trans (hself rfl), (hkeeps' _ _ rfl).trans ?_, htwelve rfl⟩
  cases answer with
  | false => exact hanswer
  | true => exact absurd (hiff.1 rfl) (by decide)

/-- Beyond `2 ^ 53` a page is kept though its property is the integer next to the wanted one. -/
theorem not_wanted_integer_exact :
    (countedPage 9007199254740993).properties.findValue? "k" = some (.int 9007199254740993) ∧
    (Filter.wanting "k" (.int 9007199254740992)).keeps (countedPage 9007199254740993) = .ok true ∧
    (int 9007199254740993).matchesWanted (.int 9007199254740992) = .ok true ∧
    (text "9007199254740993").matchesWanted (.int 9007199254740992) = .ok true ∧
    (9007199254740993 : Int) ≠ 9007199254740992 := by
  refine ⟨rfl, ?_, ?_, ?_, by decide⟩ <;> decide +kernel

end OutlineSearch
