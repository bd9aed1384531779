import OutlineSearch.Outline.Task
import OutlineSearch.Proofs.Search.Alike
import OutlineSearch.Proofs.Search.Isolation
import OutlineSearch.Proofs.Text.Blanks
import OutlineSearch.Proofs.Text.Finding
import Mathlib.Data.List.TakeWhile

/-!
# Tasks and their states

A text whose first line is a task marker with something behind it is a task in the state that the
marker stands for. No other marker is found there: a marker is followed by a space or a tab, and
none has one in it. What is to be done is the rest of the line without the blanks at its end, and
without the spaces and tabs in front of it.

A task is found by the marker that it is written with: in any letter case and with blanks around it,
a wanted state that spells a marker keeps the tasks in the state of that marker and drops all
others. The one exception is a marker that is not the name of the state it stands for: what spells it keeps
no task at all.
-/

namespace OutlineSearch.Outline

open OutlineSearch.Text

/-! ### Texts of tasks -/

/-- A text that starts with a marker: there may be spaces and tabs in front of it, there are some
behind it, and the line goes on with a text that says something. -/
structure IsMarked (content marker : String) (text : List Char) : Prop where
  isMarker : marker ∈ taskMarkers
  spoken : ∃ c ∈ text, isBlank c = false
  oneLine : '\n' ∉ text
  parts : ∃ front gap behind,
    content.toList = front ++ (marker.toList ++ (gap ++ (text ++ behind))) ∧
      (∀ c ∈ front, isSpaceOrTab c = true) ∧ gap ≠ [] ∧ (∀ c ∈ gap, isSpaceOrTab c = true) ∧
      (behind = [] ∨ ∃ more, behind = '\n' :: more)

/-- What a line asks to be done: the spaces and tabs in front are dropped, and the blanks at the
end. -/
def told (text : List Char) : List Char := trimEnd (text.dropWhile isSpaceOrTab)

/-- A marker has no space in it and no tab. -/
theorem isSpaceOrTab_of_mem_marker {marker : String} (hmarker : marker ∈ taskMarkers) :
    ∀ c ∈ marker.toList, isSpaceOrTab c = false := by
  have hmarkers : ∀ marker ∈ taskMarkers, marker.toList.all (!isSpaceOrTab ·) = true := by
    decide
  simpa using hmarkers marker hmarker

theorem marker_ne_nil {marker : String} (hmarker : marker ∈ taskMarkers) : marker.toList ≠ [] := by
  revert marker
  decide

theorem isBlank_of_isSpaceOrTab {c : Char} (hc : isSpaceOrTab c = true) : isBlank c = true := by
  simp only [isSpaceOrTab, Bool.or_eq_true, beq_iff_eq] at hc
  rcases hc with rfl | rfl
  · rfl
  · rfl

/-- What stands up to the first character of a class is determined by the whole. -/
theorem eq_of_append_cons {p : Char → Bool} {s s' rest rest' : List Char} {c c' : Char}
    (hs : ∀ c ∈ s, p c = false) (hs' : ∀ c ∈ s', p c = false) (hc : p c = true)
    (hc' : p c' = true) (h : s ++ c :: rest = s' ++ c' :: rest') : s = s' := by
  have htake (s rest : List Char) (c : Char) (hs : ∀ c ∈ s, p c = false) (hc : p c = true) :
      (s ++ c :: rest).takeWhile (fun c => !p c) = s := by
    rw [List.takeWhile_append_of_pos (by simpa using hs)]
    simp [hc]
  rw [← htake s rest c hs hc, h, htake s' rest' c' hs' hc']

section

variable {marker other : String} {front gap text behind : List Char}

/-- Where one marker stands, no other one does. -/
theorem taskBehind?_of_ne (hmarker : marker ∈ taskMarkers) (hother : other ∈ taskMarkers)
    (hne : other ≠ marker) {c : Char} (hc : isSpaceOrTab c = true) (rest : List Char) :
    taskBehind? other (marker.toList ++ c :: rest) = none := by
  unfold taskBehind?
  cases hdrop : dropPrefix? other.toList (marker.toList ++ c :: rest) with
  | none => rfl
  | some rest' =>
    have hsplit := dropPrefix?_eq_some_iff.1 hdrop
    cases rest' with
    | nil => rfl
    | cons d more =>
      have hd : isSpaceOrTab d = false := by
        by_contra hd
        have heq := eq_of_append_cons (isSpaceOrTab_of_mem_marker hmarker)
          (isSpaceOrTab_of_mem_marker hother) hc (by simpa using hd) hsplit
        exact hne (String.toList_inj.1 heq.symm)
      simp [hd]

theorem dropWhile_gap (hgap : ∀ c ∈ gap, isSpaceOrTab c = true)
    (hspoken : ∃ c ∈ text, isBlank c = false) :
    (gap ++ (text ++ behind)).dropWhile isSpaceOrTab = text.dropWhile isSpaceOrTab ++ behind := by
  rw [List.dropWhile_append_of_pos hgap, List.dropWhile_append]
  obtain ⟨c, hc, hblank⟩ := hspoken
  have hne : text.dropWhile isSpaceOrTab ≠ [] := by
    intro h
    have hall := List.dropWhile_eq_nil_iff.1 h c hc
    rw [isBlank_of_isSpaceOrTab hall] at hblank
    cases hblank
  simp [hne]

/-- Something is left of a line that says something. -/
theorem told_ne_nil (hspoken : ∃ c ∈ text, isBlank c = false) : told text ≠ [] := by
  obtain ⟨c, hc, hblank⟩ := hspoken
  intro h
  rw [told, trimEnd, dropEndWhile, List.reverse_eq_nil_iff, List.dropWhile_eq_nil_iff] at h
  rw [← List.takeWhile_append_dropWhile (p := isSpaceOrTab) (l := text), List.mem_append] at hc
  rcases hc with hc | hc
  · have hspace := isBlank_of_isSpaceOrTab (List.mem_takeWhile_imp hc)
    rw [hblank] at hspace
    cases hspace
  · have hall := h c (List.mem_reverse.2 hc)
    rw [hblank] at hall
    cases hall

theorem takeWhile_line (hline : '\n' ∉ text)
    (hbehind : behind = [] ∨ ∃ more, behind = '\n' :: more) :
    (text ++ behind).takeWhile (· != '\n') = text := by
  have htext : ∀ c ∈ text, (c != '\n') = true := by
    intro c hc
    rw [bne_iff_ne]
    rintro rfl
    exact hline hc
  rw [List.takeWhile_append_of_pos htext]
  rcases hbehind with rfl | ⟨more, rfl⟩
  · simp
  · simp

theorem taskBehind?_self (hgap : gap ≠ []) (hspaces : ∀ c ∈ gap, isSpaceOrTab c = true)
    (hspoken : ∃ c ∈ text, isBlank c = false) (hline : '\n' ∉ text)
    (hbehind : behind = [] ∨ ∃ more, behind = '\n' :: more) :
    taskBehind? marker (marker.toList ++ (gap ++ (text ++ behind))) =
      some (String.ofList (told text)) := by
  have hhead : ((gap ++ (text ++ behind)).head?.map isSpaceOrTab).getD false = true := by
    obtain ⟨c, gap, rfl⟩ := List.exists_cons_of_ne_nil hgap
    simpa using hspaces c List.mem_cons_self
  have honeLine : '\n' ∉ text.dropWhile isSpaceOrTab := fun h ↦
    hline ((List.dropWhile_sublist _).subset h)
  have hrest : trimEnd (((gap ++ (text ++ behind)).dropWhile isSpaceOrTab).takeWhile (· != '\n')) =
      told text := by
    rw [dropWhile_gap hspaces hspoken, takeWhile_line honeLine hbehind, told]
  unfold taskBehind?
  rw [dropPrefix?_append]
  simp only [bind, Option.bind, hhead, hrest]
  simp [told_ne_nil hspoken]

end

/-- A text that starts with a marker is a task in the state that the marker stands for. -/
theorem task?_of_isMarked {content marker : String} {text : List Char}
    (h : IsMarked content marker text) :
    task? content = some (taskState marker, String.ofList (told text)) := by
  obtain ⟨hmarker, hspoken, hline, front, gap, behind, hcontent, hfront, hgap, hspaces,
    hbehind⟩ := h
  have hstart : content.toList.dropWhile isSpaceOrTab =
      marker.toList ++ (gap ++ (text ++ behind)) := by
    rw [hcontent, List.dropWhile_append_of_pos hfront]
    obtain ⟨c, rest, hcons⟩ := List.exists_cons_of_ne_nil (marker_ne_nil hmarker)
    have hc := isSpaceOrTab_of_mem_marker hmarker c (by simp [hcons])
    rw [hcons, List.cons_append, List.dropWhile_cons_of_neg (by simp [hc])]
  obtain ⟨before, after, hsplit, hbefore⟩ := List.eq_append_cons_of_mem hmarker
  unfold task?
  simp only [hstart]
  rw [List.findSome?_eq_some_iff]
  refine ⟨before, marker, after, hsplit, ?_, ?_⟩
  · rw [taskBehind?_self hgap hspaces hspoken hline hbehind]
    rfl
  · intro other hother
    have hne : other ≠ marker := by
      rintro rfl
      exact hbefore hother
    obtain ⟨c, gap, rfl⟩ := List.exists_cons_of_ne_nil hgap
    rw [List.cons_append, taskBehind?_of_ne hmarker (by simp [hsplit, hother]) hne
      (hspaces c List.mem_cons_self)]
    rfl

end OutlineSearch.Outline

namespace OutlineSearch

open OutlineSearch.Outline OutlineSearch.Outcome OutlineSearch.Text

/-! ### Wanted states -/

/-- A wanted state that spells a marker, in any letter case and with blanks around it. -/
def SpellsMarker (wanted marker : String) : Prop :=
  ∃ before word after, wanted.toList = before ++ word ++ after ∧
    (∀ c ∈ before, isBlank c = true) ∧ (∀ c ∈ after, isBlank c = true) ∧
    lower word = lower marker.toList

section

variable {wanted marker other : String}

/-- A marker has no blank in it, and is not empty, in lower-case either. -/
theorem isBlank_of_mem_lower_marker (hmarker : marker ∈ taskMarkers) :
    lower marker.toList ≠ [] ∧ ∀ c ∈ lower marker.toList, isBlank c = false := by
  have hmarkers : ∀ marker ∈ taskMarkers,
      lower marker.toList ≠ [] ∧ (lower marker.toList).all (!isBlank ·) = true := by
    decide +kernel
  simpa using hmarkers marker hmarker

/-- What is left of a wanted state that spells a marker is the marker, both in lower-case. -/
theorem SpellsMarker.lowered_trimmed (h : SpellsMarker wanted marker)
    (hmarker : marker ∈ taskMarkers) :
    lowered (trimmed wanted) = lowered marker := by
  obtain ⟨before, word, after, hwanted, hbefore, hafter, hword⟩ := h
  have hbare : Bare word := by
    apply Bare.of_lower
    rw [hword]
    exact (isBlank_of_mem_lower_marker hmarker).2
  rw [trimmed, hwanted, hbare.trim_padded hbefore hafter, lowered, String.toList_ofList, hword,
    lowered]

theorem SpellsMarker.ne_empty (h : SpellsMarker wanted marker) (hmarker : marker ∈ taskMarkers) :
    wanted.isEmpty = false := by
  obtain ⟨before, word, after, hwanted, -, -, hword⟩ := h
  rw [Bool.eq_false_iff, Ne, String.isEmpty_iff]
  rintro rfl
  have hnil : word = [] := by
    simp only [String.toList_empty, List.nil_eq, List.append_eq_nil_iff] at hwanted
    exact hwanted.1.2
  subst hnil
  exact (isBlank_of_mem_lower_marker hmarker).1 hword.symm

end

/-- The filter for the tasks in a state. -/
def Filter.inState (wanted : String) : Filter where
  todoState := some wanted

/-- A filter for a state keeps the tasks in it. -/
theorem Filter.keeps_inState {r : Record} {page status wanted : String}
    {scheduled deadline : Option String} (hr : r.detail = .task page status scheduled deadline)
    (hwanted : wanted.isEmpty = false) :
    (inState wanted).keeps r = .ok (lowered status == lowered (trimmed wanted)) := by
  have htask : (inState wanted).keepsTask r = (lowered status == lowered (trimmed wanted)) := by
    simp [keepsTask, hr, inState, ifSpoken, hwanted]
  unfold inState at htask ⊢
  refine keeps_eq_of_forall ?_ ?_
  · simp [clauses, htask]
  · simp [clauses, htask]

/-- Markers that are names of states are told apart in lower-case, and the one that is no name is
none of them. -/
theorem lowered_taskState_beq : ∀ marker ∈ taskMarkers, ∀ other ∈ taskMarkers,
    (lowered (taskState marker) == lowered other) =
      (other != "CANCELLED" && taskState other == taskState marker) := by
  decide +kernel

/-- A block that starts with a marker is a task, with the rest of the line for its text. A wanted
state that spells a marker keeps it if both markers stand for one state, and drops it if not; only
what spells the second form of the marker of what is cancelled drops every task. -/
theorem marked_found {b : Block} {marker : String} {text : List Char}
    (h : IsMarked b.content marker text) (page : String) :
    ∃ r, Record.ofTask? b page = some r ∧ r.content = String.ofList (told text) ∧
      r.detail = .task page (taskState marker) (scheduled? b.content) (deadline? b.content) ∧
      ∀ other ∈ taskMarkers, ∀ wanted, SpellsMarker wanted other →
        (other ≠ "CANCELLED" →
          (Filter.inState wanted).keeps r = .ok (decide (taskState other = taskState marker))) ∧
        (other = "CANCELLED" → (Filter.inState wanted).keeps r = .ok false) := by
  have htask : Record.ofTask? b page = some
      { id := b.uuid, name := page, content := String.ofList (told text)
        properties := b.properties, tags := allTags b.properties b.content
        created := b.createdAt, updated := b.updatedAt
        detail := .task page (taskState marker) (scheduled? b.content) (deadline? b.content) } := by
    simp only [Record.ofTask?, task?_of_isMarked h, Option.map_some]
  refine ⟨_, htask, rfl, rfl, ?_⟩
  intro other hother wanted hspells
  rw [Filter.keeps_inState rfl (hspells.ne_empty hother), hspells.lowered_trimmed hother,
    lowered_taskState_beq marker h.isMarker other hother]
  constructor
  · intro hname
    simp [hname, beq_eq_decide]
  · rintro rfl
    simp

/-- A block that says what is waited for is found as what waits, however this is spelt, and not as
what is done. -/
theorem waiting_found :
    ∃ r, Record.ofTask? (Survey.plainBlock "b" "\t WAITING  for \nrain") "a" = some r ∧
    r.content = "for" ∧ (Filter.inState " Waiting\n").keeps r = .ok true ∧
    (Filter.inState "done").keeps r = .ok false := by
  have hmarked : IsMarked (Survey.plainBlock "b" "\t WAITING  for \nrain").content "WAITING"
      ['f', 'o', 'r', ' '] := {
    isMarker := by decide
    spoken := ⟨'f', by decide, rfl⟩
    oneLine := by decide
    parts := ⟨['\t', ' '], [' ', ' '], "\nrain".toList, by decide, List.all_eq_true.1 (by decide),
      by decide, List.all_eq_true.1 (by decide), .inr ⟨"rain".toList, rfl⟩⟩ }
  obtain ⟨r, hr, hcontent, -, hkeeps⟩ := marked_found hmarked "a"
  refine ⟨r, hr, hcontent, ?_, ?_⟩
  · exact (hkeeps "WAITING" (by decide) " Waiting\n"
      ⟨[' '], "Waiting".toList, ['\n'], by decide, List.all_eq_true.1 (by decide),
        List.all_eq_true.1 (by decide), by decide +kernel⟩).1 (by decide)
  · exact (hkeeps "DONE" (by decide) "done"
      ⟨[], "done".toList, [], by decide, List.forall_mem_nil _, List.forall_mem_nil _,
        by decide +kernel⟩).1 (by decide)

/-- A block that starts with the second form of the marker of what is cancelled is not found by it,
though it is by the first form. -/
theorem not_cancelled_found :
    ∃ r, Record.ofTask? (Survey.plainBlock "b" "CANCELLED buy milk") "a" = some r ∧
      r.content = "buy milk" ∧
      (Filter.inState "CANCELLED").keeps r = .ok false ∧
      (Filter.inState "CANCELED").keeps r = .ok true := by
  refine ⟨_, rfl, ?_, ?_, ?_⟩
  · decide +kernel
  · decide +kernel
  · decide +kernel

end OutlineSearch
