import OutlineSearch.Outline.Tag
import OutlineSearch.Proofs.Text.Marks
import Mathlib.Data.List.DropRight
import Mathlib.Data.List.TakeWhile

/-!
# Hashtags and references in lower-case

A hashtag is read as far as it goes, and there is none inside of another one, so each hash with a
word character behind it makes one. Names are looked for in the lower-case form of a text. Where a
name stands there behind a hash, a hashtag begins with it, but need not end with it; where it stands
in brackets, a reference is made to it.

The form of a capital sigma depends on what is around it, so a hashtag has its own form and another
one where it stands in a text. The two are the same but for the kind of sigma.
-/

namespace OutlineSearch.Outline

open OutlineSearch.Text

/-! ### Hashtags -/

/-- What a hashtag takes of the text behind its hash. -/
def tagRun (s : List Char) : List Char := dropEndWhile (!isWord ·) (s.takeWhile isTagChar)

variable {s tag : List Char}

/-- A hashtag is a hash with a word character behind it, and is read as far as it goes. -/
theorem hashtag_eq_some_iff {n : Nat} : hashtag s = some (tag, n) ↔
    ∃ c rest, s = '#' :: c :: rest ∧ isWord c = true ∧ tag = tagRun (c :: rest) ∧
      n = tag.length + 1 := by
  constructor
  · intro h
    unfold hashtag at h
    split at h
    · next c rest =>
      split at h
      · next hc =>
        obtain ⟨rfl, rfl⟩ := Prod.mk.inj (Option.some.inj h)
        exact ⟨c, rest, rfl, hc, rfl, rfl⟩
      · cases h
    · cases h
  · rintro ⟨c, rest, rfl, hc, rfl, rfl⟩
    rw [hashtag, if_pos hc]
    rfl

theorem isPrefix_tagRun (s : List Char) : tagRun s <+: s :=
  (List.rdropWhile_prefix _ _).trans (List.takeWhile_prefix _)

theorem isTagChar_of_mem_tagRun {c : Char} (h : c ∈ tagRun s) : isTagChar c = true :=
  List.mem_takeWhile_imp ((List.rdropWhile_prefix _ _).subset h)

/-- A hash stands behind no part of a hashtag. -/
theorem hashtag_drop {n k : Nat} (h : hashtag s = some (tag, n)) (hpos : 0 < k) (hk : k < n) :
    hashtag (s.drop k) = none := by
  obtain ⟨c, rest, rfl, -, rfl, rfl⟩ := hashtag_eq_some_iff.1 h
  obtain ⟨j, rfl⟩ := Nat.exists_eq_add_of_le' hpos
  obtain ⟨behind, hbehind⟩ := isPrefix_tagRun (c :: rest)
  have hj : j < (tagRun (c :: rest)).length := by omega
  have hdrop : ('#' :: c :: rest).drop (j + 1) =
      (tagRun (c :: rest))[j] :: ((tagRun (c :: rest)).drop (j + 1) ++ behind) := by
    rw [List.drop_succ_cons, ← List.cons_append, ← List.drop_eq_getElem_cons hj,
      ← List.drop_append_of_le_length (Nat.le_of_lt hj), hbehind]
  have hchar := isTagChar_of_mem_tagRun (List.getElem_mem hj)
  rw [Option.eq_none_iff_forall_ne_some]
  rintro ⟨other, m⟩ hother
  obtain ⟨d, more, hs, -⟩ := hashtag_eq_some_iff.1 hother
  rw [hdrop] at hs
  rw [(List.cons.inj hs).1] at hchar
  exact absurd hchar (by decide +kernel)

/-- The hashtags of a text are those that stand anywhere in it. -/
theorem mem_hashtags_iff : tag ∈ findAll hashtag s ↔
    ∃ before c rest, s = before ++ '#' :: c :: rest ∧ isWord c = true ∧
      tag = tagRun (c :: rest) := by
  rw [findAll, mem_findAllFrom_iff (fun t tag n h k ↦ hashtag_drop h)
    (fun k hk ↦ absurd hk (Nat.not_lt_zero k))]
  constructor
  · rintro ⟨before, t, n, rfl, -, h⟩
    obtain ⟨c, rest, rfl, hc, htag, -⟩ := hashtag_eq_some_iff.1 h
    exact ⟨before, c, rest, rfl, hc, htag⟩
  · rintro ⟨before, c, rest, rfl, hc, rfl⟩
    exact ⟨before, _, _, rfl, List.cons_ne_nil _ _,
      hashtag_eq_some_iff.2 ⟨c, rest, rfl, hc, rfl, rfl⟩⟩

/-- A hashtag takes all word characters up to the first other one. -/
theorem takeWhile_prefix_tagRun (s : List Char) : s.takeWhile isWord <+: tagRun s := by
  have hword : ∀ c ∈ s.takeWhile isWord, isTagChar c = true := by
    intro c hc
    simp [isTagChar, List.mem_takeWhile_imp hc]
  obtain ⟨more, hmore⟩ : s.takeWhile isWord <+: s.takeWhile isTagChar := by
    conv_rhs => rw [← List.takeWhile_append_dropWhile (p := isWord) (l := s)]
    rw [List.takeWhile_append_of_pos hword]
    exact List.prefix_append _ _
  rw [tagRun, ← hmore, dropEndWhile, List.reverse_append, List.dropWhile_append]
  split
  · -- nothing is left behind the word characters, and none of these is dropped
    have hkept : (s.takeWhile isWord).reverse.dropWhile (!isWord ·) =
        (s.takeWhile isWord).reverse := by
      rcases hrev : (s.takeWhile isWord).reverse with _ | ⟨c, rest⟩
      · rfl
      · have hc : c ∈ s.takeWhile isWord := List.mem_reverse.1 (by rw [hrev]; exact .head _)
        rw [List.dropWhile_cons_of_neg (by simp [List.mem_takeWhile_imp hc])]
    simp only [hkept, List.reverse_reverse, List.prefix_rfl]
  · rw [List.reverse_append, List.reverse_reverse]
    exact List.prefix_append _ _

/-! ### Forms apart from the kind of sigma -/

/-- The final sigma made the ordinary one. -/
def oneSigma (c : Char) : Char := if c = 'ς' then 'σ' else c

/-- The lower-case form of a character, with one kind of sigma. -/
def foldChar (c : Char) : List Char :=
  if c = 'Σ' then ['σ'] else if c = 'İ' then ['i', '\u0307'] else [oneSigma (lowerChar c)]

/-- The lower-case form of a text, with one kind of sigma. -/
def folded (s : List Char) : List Char := (lower s).map oneSigma

theorem IsForm.map_oneSigma {c : Char} {form : List Char} (h : IsForm c form) :
    form.map oneSigma = foldChar c := by
  cases h with
  | finalSigma | sigma | dotted => rfl
  | single hsigma hdotted => rw [foldChar, if_neg hsigma, if_neg hdotted, List.map_singleton]

/-- With one kind of sigma the form of a character does not depend on what is around it. -/
theorem folded_eq_flatMap (s : List Char) : folded s = s.flatMap foldChar := by
  have hfrom (before s : List Char) : (lowerFrom before s).map oneSigma = s.flatMap foldChar := by
    induction s generalizing before with
    | nil => rfl
    | cons c s ih =>
      obtain ⟨form, hform, hlower⟩ := exists_isForm before s c
      rw [hlower, List.map_append, IsForm.map_oneSigma hform, ih, List.flatMap_cons]
  exact hfrom [] s

theorem folded_append (s t : List Char) : folded (s ++ t) = folded s ++ folded t := by
  rw [folded_eq_flatMap, folded_eq_flatMap, folded_eq_flatMap, List.flatMap_append]

/-- A name without a sigma stands at the start of a form exactly if it does so when the kinds of
sigma are not told apart. -/
theorem prefix_map_oneSigma {name : List Char} (hsigma : 'σ' ∉ name) (hfinal : 'ς' ∉ name) :
    name <+: s.map oneSigma ↔ name <+: s := by
  induction name generalizing s with
  | nil => simp
  | cons d name ih =>
    rw [List.mem_cons, not_or] at hsigma hfinal
    cases s with
    | nil => simp
    | cons c s =>
      rw [List.map_cons, List.cons_prefix_cons, List.cons_prefix_cons, ih hsigma.2 hfinal.2]
      refine and_congr_left fun _ ↦ ?_
      unfold oneSigma
      split
      · next hc => simp [hc, Ne.symm hsigma.1, Ne.symm hfinal.1]
      · rfl

/-- What follows the word characters of a text starts with no word character in lower-case. -/
theorem isWord_of_folded_eq_cons {d : Char} {more : List Char}
    (hs : ∀ c rest, s = c :: rest → isWord c = false) (h : folded s = d :: more) :
    isWord d = false := by
  obtain ⟨e, tail, hlower, hd, -⟩ := List.map_eq_cons_iff.1 h
  obtain ⟨c, rest, rfl, hword⟩ := isWord_of_lower_eq_cons hlower
  rw [hs c rest rfl] at hword
  have hne : e ≠ 'ς' := by
    rintro rfl
    cases (isWord_special (by decide)).symm.trans hword
  rwa [← hd, oneSigma, if_neg hne]

theorem takeWhile_append_prefix_left {p : Char → Bool} {t : List Char}
    (ht : ∀ d more, t = d :: more → p d = false) : (s ++ t).takeWhile p <+: s := by
  induction s with
  | nil =>
    cases t with
    | nil => simp
    | cons d more => simp [ht d more rfl]
  | cons c s ih =>
    rw [List.cons_append, List.takeWhile_cons]
    split
    · exact List.cons_prefix_cons.2 ⟨rfl, ih⟩
    · exact List.nil_prefix

/-- A name of word characters stands at the start of a form only if it is within the first word. -/
theorem prefix_folded_takeWhile {name : List Char} (hname : ∀ d ∈ name, isWord d = true)
    (h : name <+: folded s) : name <+: folded (s.takeWhile isWord) := by
  obtain ⟨behind, hbehind⟩ := h
  have hword : name <+: (folded s).takeWhile isWord := by
    rw [← hbehind, List.takeWhile_append_of_pos hname]
    exact List.prefix_append _ _
  have hsplit : folded s = folded (s.takeWhile isWord) ++ folded (s.dropWhile isWord) := by
    rw [← folded_append, List.takeWhile_append_dropWhile]
  rw [hsplit] at hword
  refine hword.trans (takeWhile_append_prefix_left fun d more hd ↦ ?_)
  refine isWord_of_folded_eq_cons (fun c rest hs ↦ ?_) hd
  have hhead := List.head_dropWhile_not isWord (l := s) (by simp [hs])
  simpa [hs] using hhead

/-- A name of word characters without a sigma stands at the start of a form exactly if the hashtag
that is read there begins with it. -/
theorem prefix_lower_tagRun {name : List Char} (hname : ∀ d ∈ name, isWord d = true)
    (hsigma : 'σ' ∉ name) (hfinal : 'ς' ∉ name) :
    name <+: lower (tagRun s) ↔ name <+: lower s := by
  rw [← prefix_map_oneSigma hsigma hfinal, ← prefix_map_oneSigma (s := lower s) hsigma hfinal]
  have hstart {t u : List Char} (h : t <+: u) : folded t <+: folded u := by
    obtain ⟨behind, rfl⟩ := h
    rw [folded_append]
    exact List.prefix_append _ _
  constructor
  · exact fun h ↦ h.trans (hstart (isPrefix_tagRun s))
  · exact fun h ↦ (prefix_folded_takeWhile hname h).trans (hstart (takeWhile_prefix_tagRun s))

/-! ### Links -/

/-- A text has a reference to a name: the name stands in it between brackets, in any case. -/
def Refers (name : String) (content : String) : Prop :=
  ∃ before title behind,
    content.toList = before ++ ("[[".toList ++ (title ++ ("]]".toList ++ behind))) ∧
      lower title = lower name.toList

/-- A text has a hashtag that is a name, in any case. -/
def Tagged (name : String) (content : String) : Prop :=
  ∃ tag ∈ findAll hashtag content.toList, lower tag = lower name.toList

/-- A text has a hashtag that begins with a name, in any case. -/
def Opens (name : String) (content : String) : Prop :=
  ∃ tag ∈ findAll hashtag content.toList, lower name.toList <+: lower tag

/-- A text has a hashtag that begins with a name when the text is lower-case as a whole, so that the
kind of a sigma depends on what stands behind the hashtag too. -/
def OpensHere (name : String) (content : String) : Prop :=
  ∃ before tag behind, content.toList = before ++ '#' :: (tag ++ behind) ∧
    hashtag ('#' :: (tag ++ behind)) = some (tag, tag.length + 1) ∧
    lower name.toList <+: lower (tag ++ behind)

/-- A name stands in brackets in a lower-case form where there is a reference to it. -/
theorem refers_iff {name content : String} : Refers name content ↔
    "[[".toList ++ (lower name.toList ++ "]]".toList) <:+: lower content.toList := by
  have hopening : "[[".toList ⊆ marks := by decide
  have hclosing : "]]".toList ⊆ marks := by decide
  constructor
  · rintro ⟨before, title, behind, hcontent, htitle⟩
    refine ⟨lower before, lower behind, ?_⟩
    rw [hcontent, (lower_eq_append_marks hopening (by decide)).2 ⟨_, _, rfl, rfl, rfl⟩,
      (lower_eq_append_marks hclosing (by decide)).2 ⟨_, _, rfl, rfl, rfl⟩, htitle]
    simp only [List.append_assoc]
  · rintro ⟨A, B, h⟩
    simp only [List.append_assoc] at h
    obtain ⟨before, rest, hcontent, -, hrest⟩ :=
      (lower_eq_append_marks hopening (by decide)).1 h.symm
    obtain ⟨title, behind, rfl, htitle, -⟩ :=
      (lower_eq_append_marks hclosing (by decide)).1 hrest
    exact ⟨before, title, behind, hcontent, htitle⟩

/-- A name stands behind a hash in a lower-case form where a hashtag begins with it there. -/
theorem opensHere_iff {name content : String} {c : Char} {rest : List Char}
    (hname : name.toList = c :: rest) (hc : isWord c = true) : OpensHere name content ↔
      '#' :: lower name.toList <:+: lower content.toList := by
  constructor
  · rintro ⟨before, tag, behind, hcontent, -, more, hmore⟩
    refine ⟨lower before, more, ?_⟩
    rw [hcontent, lower_append_mark (by decide), ← hmore]
    simp
  · rintro ⟨A, B, h⟩
    have hmark : lower content.toList = A ++ '#' :: (lower name.toList ++ B) := by
      rw [← h]
      simp
    obtain ⟨before, s, hcontent, -, hs⟩ := lower_eq_append_mark (by decide) hmark
    -- the form of the name starts with a word character, and so does what is behind the hash
    obtain ⟨form, hform, hlower⟩ := exists_isForm [] rest c
    obtain ⟨d, more, rfl, hd⟩ := hform.exists_cons
    have hs' : lower s = d :: (more ++ lowerFrom [c] rest ++ B) := by
      rw [hs, hname, lower, hlower]
      simp
    obtain ⟨e, tail, rfl, he⟩ := isWord_of_lower_eq_cons hs'
    obtain ⟨behind, hbehind⟩ := isPrefix_tagRun (e :: tail)
    refine ⟨before, tagRun (e :: tail), behind, ?_, ?_, ?_⟩
    · rw [hbehind, hcontent]
    · rw [hbehind]
      exact hashtag_eq_some_iff.2 ⟨e, tail, rfl, he.symm.trans (hd.trans hc), rfl, rfl⟩
    · rw [hbehind, hs]
      exact List.prefix_append _ _

/-- For a name whose form has word characters only, and no sigma, it does not matter what stands
behind a hashtag. -/
theorem opensHere_iff_opens {name content : String}
    (hname : ∀ d ∈ lower name.toList, isWord d = true) (hsigma : 'σ' ∉ lower name.toList)
    (hfinal : 'ς' ∉ lower name.toList) : OpensHere name content ↔ Opens name content := by
  constructor
  · rintro ⟨before, tag, behind, hcontent, hread, hstart⟩
    obtain ⟨c, rest, hs, hc, htag, -⟩ := hashtag_eq_some_iff.1 hread
    rw [(List.cons.inj hs).2, ← prefix_lower_tagRun hname hsigma hfinal, ← htag] at hstart
    refine ⟨tag, mem_hashtags_iff.2 ⟨before, c, rest, ?_, hc, htag⟩, hstart⟩
    rw [hcontent, hs]
  · rintro ⟨tag, htag, hstart⟩
    obtain ⟨before, c, rest, hcontent, hc, rfl⟩ := mem_hashtags_iff.1 htag
    obtain ⟨behind, hbehind⟩ := isPrefix_tagRun (c :: rest)
    refine ⟨before, tagRun (c :: rest), behind, ?_, ?_, ?_⟩
    · rw [hbehind, hcontent]
    · rw [hbehind]
      exact hashtag_eq_some_iff.2 ⟨c, rest, rfl, hc, rfl, rfl⟩
    · rw [hbehind]
      exact (prefix_lower_tagRun hname hsigma hfinal).1 hstart

end OutlineSearch.Outline
