import EnvConfig.Naming.Words
import EnvConfig.Proofs.Printing.Scanning

/-!
# Fragments as a normal form of names

A fragment keeps the letters and digits of a name and nothing else of it but where its words begin.
Names that differ in case, or in what stands between their words, may have one fragment; other names
never do.

* `letters`: what a fragment keeps of a name;
* `IsFragment`: words in capitals and numbers, with single underscores between them;
* `isFragment_fragment`, `fragment_of_isFragment`: every fragment has this form, and a name of this
  form is its own fragment;
* `fragment_snakeCase`: an identifier and its small spelling have one fragment;
* `fragment_normalForm`: all of it.
-/

namespace EnvConfig.Naming

open Text

/-- the ASCII letters and digits of a text, in order -/
def letters (s : String) : List Char := s.toList.filter Char.isAlphanum

/-- a word of capitals, or a number -/
def IsFragmentWord (w : List Char) : Prop :=
  w ≠ [] ∧ ((∀ c ∈ w, c.isUpper = true) ∨ ∀ c ∈ w, c.isDigit = true)

/-- words of capitals and numbers with single underscores between them, or nothing -/
def IsFragment (s : String) : Prop :=
  ∃ ws, s = String.ofList (join '_' ws) ∧ ∀ w ∈ ws, IsFragmentWord w

/-! ### characters -/

section
variable {c p : Char}

theorem isNameChar_of_isAlphanum (h : c.isAlphanum = true) : isNameChar c = true := by
  rw [isNameChar, h, Bool.true_or]

/-- a letter is a capital or a small letter -/
theorem isAlpha_eq (c : Char) : c.isAlpha = (c.isUpper || c.isLower) := rfl

theorem isAlphanum_of_isAlpha (h : c.isAlpha = true) : c.isAlphanum = true := by
  simp [Char.isAlphanum, h]

theorem isAlphanum_of_isUpper (h : c.isUpper = true) : c.isAlphanum = true := by
  simp [Char.isAlphanum, isAlpha_eq, h]

theorem isAlphanum_of_isDigit (h : c.isDigit = true) : c.isAlphanum = true := by
  simp [Char.isAlphanum, h]

/-- what is known of an ASCII capital -/
structure UpperFacts (c : Char) : Prop where
  isLower : c.isLower = false
  isDigit : c.isDigit = false
  isLowercase : isLowercase c = false
  toUpper : c.toUpper = c
  isUpper_toLower : c.toLower.isUpper = false
  toLower : toLower c = [c.toLower]

theorem isUpper_facts (h : c.isUpper = true) : UpperFacts c := by
  have hall := forall_nameChar (p := fun c => !c.isUpper || (!c.isLower && !c.isDigit &&
    !isLowercase c && c.toUpper == c && !c.toLower.isUpper && toLower c == [c.toLower]))
    (by decide +kernel) (isNameChar_of_isAlphanum (isAlphanum_of_isUpper h))
  simp only [h, Bool.not_true, Bool.false_or, Bool.and_eq_true, Bool.not_eq_true', beq_iff_eq,
    and_assoc] at hall
  obtain ⟨hlower, hdigit, hlowercase, hupper, hsmall, htext⟩ := hall
  exact ⟨hlower, hdigit, hlowercase, hupper, hsmall, htext⟩

/-- what is known of an ASCII digit -/
structure DigitFacts (c : Char) : Prop where
  isUpper : c.isUpper = false
  isLower : c.isLower = false
  isLowercase : isLowercase c = false
  toUpper : c.toUpper = c

theorem isDigit_facts (h : c.isDigit = true) : DigitFacts c := by
  have hall := forall_nameChar (p := fun c => !c.isDigit || (!c.isUpper && !c.isLower &&
    !isLowercase c && c.toUpper == c)) (by decide +kernel)
    (isNameChar_of_isAlphanum (isAlphanum_of_isDigit h))
  simp only [h, Bool.not_true, Bool.false_or, Bool.and_eq_true, Bool.not_eq_true', beq_iff_eq,
    and_assoc] at hall
  obtain ⟨hupper, hlower, hlowercase, hsame⟩ := hall
  exact ⟨hupper, hlower, hlowercase, hsame⟩

/-- a letter or digit is of exactly one of the three kinds -/
theorem kind_cases (h : c.isAlphanum = true) :
    c.isUpper = true ∧ c.isLower = false ∧ c.isDigit = false ∨
    c.isUpper = false ∧ c.isLower = true ∧ c.isDigit = false ∨
    c.isUpper = false ∧ c.isLower = false ∧ c.isDigit = true := by
  by_cases hupper : c.isUpper = true
  · exact .inl ⟨hupper, (isUpper_facts hupper).isLower, (isUpper_facts hupper).isDigit⟩
  · by_cases hdigit : c.isDigit = true
    · exact .inr (.inr ⟨(isDigit_facts hdigit).isUpper, (isDigit_facts hdigit).isLower, hdigit⟩)
    · rw [Bool.not_eq_true] at hupper hdigit
      rw [Char.isAlphanum, isAlpha_eq, hupper, hdigit, Bool.false_or, Bool.or_false] at h
      exact .inr (.inl ⟨hupper, h, hdigit⟩)

theorem isLower_facts (h : c.isLower = true) : c.isUpper = false ∧ c.isDigit = false := by
  have halpha : c.isAlpha = true := by rw [isAlpha_eq, h, Bool.or_true]
  obtain ⟨-, hlower, -⟩ | ⟨hupper, -, hdigit⟩ | ⟨-, hlower, -⟩ :=
    kind_cases (isAlphanum_of_isAlpha halpha)
  · simp [hlower] at h
  · exact ⟨hupper, hdigit⟩
  · simp [hlower] at h

theorem isDigit_of_isAlpha (h : c.isAlpha = true) : c.isDigit = false := by
  obtain h | h := Bool.or_eq_true_iff.mp h
  · exact (isUpper_facts h).isDigit
  · exact (isLower_facts h).2

/-- the case of a character of a name changes nothing else of it -/
structure CaseFacts (c : Char) : Prop where
  isUppercase : isUppercase c = c.isUpper
  isDigit_toUpper : c.toUpper.isDigit = c.isDigit
  isAlphanum_toLower : c.toLower.isAlphanum = c.isAlphanum
  isDigit_toLower : c.toLower.isDigit = c.isDigit
  isAlpha_toLower : c.toLower.isAlpha = c.isAlpha
  toUpper_toLower : c.toLower.toUpper = c.toUpper
  toLower_of_not : c.isUpper = false → c.toLower = c
  isUpper_toUpper : c.isAlpha = true → c.toUpper.isUpper = true

theorem case_facts (h : isNameChar c = true) : CaseFacts c := by
  have hall := forall_nameChar (p := fun c => isUppercase c == c.isUpper &&
    c.toUpper.isDigit == c.isDigit && c.toLower.isAlphanum == c.isAlphanum &&
    c.toLower.isDigit == c.isDigit && c.toLower.isAlpha == c.isAlpha &&
    c.toLower.toUpper == c.toUpper && (c.isUpper || c.toLower == c) &&
    (!c.isAlpha || c.toUpper.isUpper)) (by decide +kernel) h
  simp only [Bool.and_eq_true, beq_iff_eq, and_assoc] at hall
  obtain ⟨hcase, hdigit, halnum, hdigit', halpha, hupper, hlower, hcapital⟩ := hall
  refine ⟨hcase, hdigit, halnum, hdigit', halpha, hupper, fun hnot => ?_, fun hletter => ?_⟩
  · rwa [hnot, Bool.false_or, beq_iff_eq] at hlower
  · rwa [hletter, Bool.not_true, Bool.false_or] at hcapital

theorem isUpper_toUpper (h : c.isAlpha = true) : c.toUpper.isUpper = true :=
  (case_facts (isNameChar_of_isAlphanum (isAlphanum_of_isAlpha h))).isUpper_toUpper h

theorem isNameChar_toLower (h : isNameChar c = true) : isNameChar c.toLower = true := by
  have hall := forall_nameChar (p := fun c => !isNameChar c || isNameChar c.toLower)
    (by decide +kernel) h
  simpa [h] using hall

/-- no word begins between two capitals with no small letter after them, or between two digits -/
theorem not_isBoundary {next : Option Char}
    (h : p.isUpper = true ∧ c.isUpper = true ∨ p.isDigit = true ∧ c.isDigit = true)
    (hnext : ∀ d ∈ next, isLowercase d = false) : isBoundary p c next = false := by
  have hany : next.any isLowercase = false := by
    cases next with
    | none => rfl
    | some d => exact hnext d rfl
  obtain ⟨hp, hc⟩ | ⟨hp, hc⟩ := h
  · have hcapital := isUpper_facts hp
    simp [isBoundary, hcapital.isLower, hcapital.isDigit, (isUpper_facts hc).isDigit, hany]
  · have hfigure := isDigit_facts hp
    have hfigure' := isDigit_facts hc
    simp [isBoundary, isAlpha_eq, hfigure.isUpper, hfigure.isLower, hfigure'.isUpper,
      hfigure'.isLower]

/-- before a character that is no capital only letters and digits are kept apart -/
theorem isBoundary_of_not_isUpper {next : Option Char} (h : c.isUpper = false) :
    isBoundary p c next = (c.isDigit && p.isAlpha || c.isAlpha && p.isDigit) := by
  simp [isBoundary, h]

end

/-! ### words -/

section
variable {c p : Char} {word before cs rest : List Char}

/-- all letters, or all digits -/
def OneKind (w : List Char) : Prop := (∀ c ∈ w, c.isAlpha = true) ∨ ∀ c ∈ w, c.isDigit = true

theorem oneKind_singleton (h : c.isAlphanum = true) : OneKind [c] := by
  rw [Char.isAlphanum, Bool.or_eq_true] at h
  simpa [OneKind] using h

theorem OneKind.cons {next : Option Char} (h : OneKind (p :: before)) (hc : c.isAlphanum = true)
    (hb : isBoundary p c next = false) : OneKind (c :: p :: before) := by
  rw [Char.isAlphanum, Bool.or_eq_true] at hc
  simp only [isBoundary, Bool.or_eq_false_iff, Bool.and_eq_false_imp] at hb
  obtain ⟨⟨⟨hdigit, halpha⟩, -⟩, -⟩ := hb
  obtain h | h := h
  · have hp : p.isAlpha = true := h p List.mem_cons_self
    have hnot : ¬ c.isDigit = true := fun hd => by simp [hdigit hd] at hp
    exact .inl (List.forall_mem_cons.mpr ⟨hc.resolve_right hnot, h⟩)
  · have hp : p.isDigit = true := h p List.mem_cons_self
    have hnot : ¬ c.isAlpha = true := fun ha => by simp [halpha ha] at hp
    exact .inr (List.forall_mem_cons.mpr ⟨hc.resolve_left hnot, h⟩)

theorem OneKind.reverse (h : OneKind word) : OneKind word.reverse := by
  simpa [OneKind] using h

theorem oneKind_of_mem_finished {w : List Char} (h : OneKind word) (hw : w ∈ finished word) :
    w ≠ [] ∧ OneKind w := by
  cases word with
  | nil => exact absurd hw List.not_mem_nil
  | cons c cs =>
    obtain rfl := List.mem_singleton.mp hw
    exact ⟨by simp, h.reverse⟩

/-- every word is a run of letters or a number -/
theorem oneKind_of_mem_wordsFrom {w : List Char} (h : OneKind word) (hw : w ∈ wordsFrom word cs) :
    w ≠ [] ∧ OneKind w := by
  fun_induction wordsFrom word cs with
  | case1 word => exact oneKind_of_mem_finished h hw
  | case2 word c cs hc ih =>
    rcases List.mem_append.mp hw with hw | hw
    · exact oneKind_of_mem_finished h hw
    · exact ih (.inl (List.forall_mem_nil _)) hw
  | case3 c cs hc ih =>
    rw [Bool.not_eq_true, Bool.not_eq_false'] at hc
    exact ih (oneKind_singleton hc) hw
  | case4 c cs hc p before hb ih =>
    rw [Bool.not_eq_true, Bool.not_eq_false'] at hc
    rcases List.mem_append.mp hw with hw | hw
    · exact oneKind_of_mem_finished h hw
    · exact ih (oneKind_singleton hc) hw
  | case5 c cs hc p before hb ih =>
    rw [Bool.not_eq_true, Bool.not_eq_false'] at hc
    rw [Bool.not_eq_true] at hb
    exact ih (h.cons hc hb) hw

theorem oneKind_of_mem_words {w : List Char} (hw : w ∈ words cs) : w ≠ [] ∧ OneKind w :=
  oneKind_of_mem_wordsFrom (.inl (List.forall_mem_nil _)) hw

/-! ### the form of a fragment -/

theorem OneKind.isNameChar (h : OneKind word) (hc : c ∈ word) : isNameChar c = true := by
  obtain h | h := h
  · exact isNameChar_of_isAlphanum (by rw [Char.isAlphanum, h c hc, Bool.true_or])
  · exact isNameChar_of_isAlphanum (isAlphanum_of_isDigit (h c hc))

theorem isWord_toUpper (hne : word ≠ []) (h : OneKind word) :
    IsFragmentWord (word.map Char.toUpper) := by
  refine ⟨by simpa using hne, ?_⟩
  simp only [List.forall_mem_map]
  obtain halpha | hdigit := id h
  · exact .inl fun c hc => isUpper_toUpper (halpha c hc)
  · refine .inr fun c hc => ?_
    rw [(case_facts (h.isNameChar hc)).isDigit_toUpper, hdigit c hc]

theorem IsFragmentWord.isAlphanum (h : IsFragmentWord word) (hc : c ∈ word) :
    c.isAlphanum = true := by
  obtain ⟨-, h | h⟩ := h
  · exact isAlphanum_of_isUpper (h c hc)
  · exact isAlphanum_of_isDigit (h c hc)

theorem isFragment_fragment (name : String) : IsFragment (fragment name) := by
  refine ⟨_, rfl, ?_⟩
  rw [List.forall_mem_map]
  intro w hw
  obtain ⟨hne, hkind⟩ := oneKind_of_mem_words hw
  exact isWord_toUpper hne hkind

/-- only letters and digits are left of words without what stands between them -/
theorem filter_join {ws : List (List Char)} (h : ∀ w ∈ ws, ∀ c ∈ w, c.isAlphanum = true) :
    (join '_' ws).filter Char.isAlphanum = ws.flatten := by
  induction ws with
  | nil => rfl
  | cons w ws ih =>
    rw [List.forall_mem_cons] at h
    have hw : w.filter Char.isAlphanum = w := List.filter_eq_self.mpr h.1
    cases ws with
    | nil => simpa [join] using hw
    | cons v ws =>
      have hgap : ('_' : Char).isAlphanum = false := by decide
      rw [join, List.filter_append, hw, List.filter_cons_of_neg (by simp [hgap]), ih h.2]
      rfl

theorem letters_fragment (name : String) :
    letters (fragment name) = (letters name).map Char.toUpper := by
  have hkeep : ∀ w ∈ (words name.toList).map (·.map Char.toUpper), ∀ c ∈ w,
      c.isAlphanum = true := by
    rw [List.forall_mem_map]
    intro w hw c hc
    obtain ⟨hne, hkind⟩ := oneKind_of_mem_words hw
    exact (isWord_toUpper hne hkind).isAlphanum hc
  rw [letters, fragment, String.toList_ofList, filter_join hkeep, ← List.map_flatten, words,
    flatten_wordsFrom]
  rfl

theorem fragment_eq_empty_iff (name : String) : fragment name = "" ↔ letters name = [] := by
  constructor
  · intro h
    have hletters := letters_fragment name
    rw [h] at hletters
    exact List.map_eq_nil_iff.mp hletters.symm
  · intro h
    have hwords : words name.toList = [] := by
      rw [List.eq_nil_iff_forall_not_mem]
      intro w hw
      have hflat : (words name.toList).flatten = [] := by
        rw [words, flatten_wordsFrom]
        exact h
      exact (oneKind_of_mem_words hw).1 (List.flatten_eq_nil_iff.mp hflat w hw)
    rw [fragment, hwords]
    rfl

/-! ### a fragment is its own fragment -/

/-- a word of a fragment is read through to its end -/
theorem wordsFrom_append {w : List Char} (hne : word ≠ []) (h : IsFragmentWord (word.reverse ++ w))
    (hrest : ∀ d ∈ rest.head?, isLowercase d = false) :
    wordsFrom word (w ++ rest) = wordsFrom (w.reverse ++ word) rest := by
  induction w generalizing word with
  | nil => rfl
  | cons c w ih =>
    obtain ⟨p, before, rfl⟩ := List.exists_cons_of_ne_nil hne
    have hsmall : ∀ d ∈ (w ++ rest).head?, isLowercase d = false := by
      intro d hd
      cases w with
      | nil => exact hrest d hd
      | cons e w =>
        obtain rfl : e = d := by simpa using hd
        obtain ⟨-, h | h⟩ := h
        · exact (isUpper_facts (h e (by simp))).isLowercase
        · exact (isDigit_facts (h e (by simp))).isLowercase
    have hb : isBoundary p c (w ++ rest).head? = false := by
      refine not_isBoundary ?_ hsmall
      obtain ⟨-, h | h⟩ := h
      · exact .inl ⟨h p (by simp), h c (by simp)⟩
      · exact .inr ⟨h p (by simp), h c (by simp)⟩
    rw [List.cons_append, wordsFrom_of_not_isBoundary (h.isAlphanum (by simp)) hb,
      ih (List.cons_ne_nil _ _) (by simpa using h)]
    simp

theorem words_append {w : List Char} (h : IsFragmentWord w)
    (hrest : ∀ d ∈ rest.head?, isLowercase d = false) :
    words (w ++ rest) = wordsFrom w.reverse rest := by
  obtain ⟨c, w, rfl⟩ := List.exists_cons_of_ne_nil h.1
  rw [words, List.cons_append, wordsFrom_nil_cons (h.isAlphanum List.mem_cons_self),
    wordsFrom_append (List.cons_ne_nil _ _) (by simpa using h) hrest, List.reverse_cons]

theorem words_join {ws : List (List Char)} (h : ∀ w ∈ ws, IsFragmentWord w) :
    words (join '_' ws) = ws := by
  induction ws with
  | nil => rfl
  | cons w ws ih =>
    rw [List.forall_mem_cons] at h
    cases ws with
    | nil =>
      have hwords : words (w ++ []) = wordsFrom w.reverse [] := words_append h.1 (by simp)
      rw [List.append_nil, wordsFrom, finished_reverse h.1.1] at hwords
      exact hwords
    | cons v ws =>
      rw [join, words_append h.1 (by simp; decide), wordsFrom_of_gap (by decide),
        finished_reverse h.1.1]
      exact congrArg (w :: ·) (ih h.2)

theorem IsFragmentWord.map_toUpper (h : IsFragmentWord word) : word.map Char.toUpper = word := by
  refine (List.map_congr_left fun c hc => ?_).trans (List.map_id word)
  obtain ⟨-, h | h⟩ := h
  · exact (isUpper_facts (h c hc)).toUpper
  · exact (isDigit_facts (h c hc)).toUpper

theorem fragment_of_isFragment {s : String} (h : IsFragment s) : fragment s = s := by
  obtain ⟨ws, rfl, hws⟩ := h
  have hupper : ws.map (·.map Char.toUpper) = ws :=
    (List.map_congr_left fun w hw => (hws w hw).map_toUpper).trans (List.map_id ws)
  rw [fragment, String.toList_ofList, words_join hws, hupper]

/-! ### the small spelling -/

/-- `prev` was the last character of `word`, or no word goes on after it -/
def Continues (prev : Option Char) (word : List Char) : Prop :=
  word.head? = prev.filter Char.isAlphanum

theorem Continues.eq_of_cons {prev : Option Char} (h : Continues prev (p :: before)) :
    prev = some p ∧ p.isAlphanum = true := by
  have hfilter : prev.filter Char.isAlphanum = some p := h.symm
  exact Option.filter_eq_some_iff.mp hfilter

theorem continues_singleton (h : c.isAlphanum = true) (before : List Char) :
    Continues (some c) (c :: before) := by
  rw [Continues, Option.filter_some, if_pos h]
  rfl

theorem continues_nil (h : c.isAlphanum = false) : Continues (some c) [] := by
  rw [Continues, Option.filter_some, if_neg (by simp [h])]
  rfl

/-- the case of a word that ends here does not matter -/
theorem map_finished_toLower (h : ∀ c ∈ word, isNameChar c = true) :
    (finished (word.map Char.toLower)).map (·.map Char.toUpper) =
      (finished word).map (·.map Char.toUpper) := by
  have hcase : (word.map Char.toLower).map Char.toUpper = word.map Char.toUpper := by
    rw [List.map_map]
    exact List.map_congr_left fun c hc => (case_facts (h c hc)).toUpper_toLower
  rw [← finished_map, ← finished_map, hcase]

theorem snakeFrom_cons {prev : Option Char} (h : isNameChar c = true) :
    snakeFrom prev (c :: cs) = (if c.isUpper && startsWord prev cs.head? then ['_'] else []) ++
      c.toLower :: snakeFrom (some c) cs := by
  rw [snakeFrom, (case_facts h).isUppercase]
  by_cases hc : c.isUpper = true
  · rw [if_pos hc, (isUpper_facts hc).toLower, hc, Bool.true_and, List.append_assoc]
    rfl
  · rw [if_neg hc]
    rw [Bool.not_eq_true] at hc
    rw [hc, (case_facts h).toLower_of_not hc]
    rfl

/-- before a capital the small spelling has an underscore exactly where a word begins -/
theorem startsWord_eq_isBoundary {next : Option Char} (hc : c.isUpper = true)
    (hp : p.isAlphanum = true) : startsWord (some p) next = isBoundary p c next := by
  have hmark : p ≠ '_' := by
    rintro rfl
    exact absurd hp (by decide)
  have halpha : c.isAlpha = true := by rw [isAlpha_eq, hc, Bool.true_or]
  have hstart : startsWord (some p) next = (!p.isUpper || next.any isLowercase) := by
    simp [startsWord, (case_facts (isNameChar_of_isAlphanum hp)).isUppercase, hmark]
  rw [hstart, isBoundary, (isUpper_facts hc).isDigit, halpha, hc]
  obtain ⟨hupper, hlower, hdigit⟩ | ⟨hupper, hlower, hdigit⟩ | ⟨hupper, hlower, hdigit⟩ :=
    kind_cases hp <;> simp [hupper, hlower, hdigit]

/-- between small letters and digits only the two kinds are kept apart -/
theorem isBoundary_toLower {next : Option Char} (hp : isNameChar p = true)
    (hc : isNameChar c = true) : isBoundary p.toLower c.toLower next =
      (c.isDigit && p.isAlpha || c.isAlpha && p.isDigit) := by
  have hsmall : c.toLower.isUpper = false := by
    by_cases hupper : c.isUpper = true
    · exact (isUpper_facts hupper).isUpper_toLower
    · rw [Bool.not_eq_true] at hupper
      rw [(case_facts hc).toLower_of_not hupper, hupper]
  rw [isBoundary_of_not_isUpper hsmall, (case_facts hp).isDigit_toLower,
    (case_facts hp).isAlpha_toLower, (case_facts hc).isDigit_toLower,
    (case_facts hc).isAlpha_toLower]

/-- an underscore before the first word changes nothing -/
theorem wordsFrom_snakeFrom_nil {prev : Option Char} (hc : c.isAlphanum = true) :
    wordsFrom [] (snakeFrom prev (c :: cs)) = wordsFrom [c.toLower] (snakeFrom (some c) cs) := by
  have hcname := isNameChar_of_isAlphanum hc
  have hsmall : c.toLower.isAlphanum = true := by rw [(case_facts hcname).isAlphanum_toLower, hc]
  rw [snakeFrom_cons hcname]
  split
  · rw [List.singleton_append, wordsFrom_of_gap (by decide), wordsFrom_nil_cons hsmall]
    rfl
  · rw [List.nil_append, wordsFrom_nil_cons hsmall]

/-- The small spelling of a name begins its words where the name does: with an underscore before a
capital, and between a letter and a digit without one. -/
theorem wordsFrom_snakeFrom_cons (hp : p.isAlphanum = true) (hc : c.isAlphanum = true) :
    wordsFrom (p.toLower :: before) (snakeFrom (some p) (c :: cs)) =
      if isBoundary p c cs.head? = true then
        finished (p.toLower :: before) ++ wordsFrom [c.toLower] (snakeFrom (some c) cs)
      else wordsFrom (c.toLower :: p.toLower :: before) (snakeFrom (some c) cs) := by
  have hpname := isNameChar_of_isAlphanum hp
  have hcname := isNameChar_of_isAlphanum hc
  have hsmall : c.toLower.isAlphanum = true := by rw [(case_facts hcname).isAlphanum_toLower, hc]
  rw [snakeFrom_cons hcname]
  by_cases hupper : c.isUpper = true
  · rw [hupper, Bool.true_and, startsWord_eq_isBoundary hupper hp]
    split
    · rw [List.singleton_append, wordsFrom_of_gap (by decide), wordsFrom_nil_cons hsmall]
    · rename_i hb
      rw [Bool.not_eq_true, isBoundary, Bool.or_eq_false_iff, Bool.or_eq_false_iff] at hb
      rw [List.nil_append, wordsFrom_of_not_isBoundary hsmall]
      rw [isBoundary_toLower hpname hcname, hb.1.1]
  · rw [Bool.not_eq_true] at hupper
    rw [hupper, Bool.false_and, if_neg Bool.false_ne_true, List.nil_append,
      isBoundary_of_not_isUpper hupper]
    split
    · rename_i hb
      rw [wordsFrom_of_isBoundary hsmall (by rw [isBoundary_toLower hpname hcname, hb])]
    · rename_i hb
      rw [Bool.not_eq_true] at hb
      rw [wordsFrom_of_not_isBoundary hsmall (by rw [isBoundary_toLower hpname hcname, hb])]

/-- the words of the rest of a name are those of its small spelling, case aside -/
theorem map_wordsFrom_snakeFrom {prev : Option Char} (hcs : ∀ c ∈ cs, isNameChar c = true)
    (hword : ∀ c ∈ word, isNameChar c = true) (h : Continues prev word) :
    (wordsFrom (word.map Char.toLower) (snakeFrom prev cs)).map (·.map Char.toUpper) =
      (wordsFrom word cs).map (·.map Char.toUpper) := by
  induction cs generalizing prev word with
  | nil => exact map_finished_toLower hword
  | cons c cs ih =>
    rw [List.forall_mem_cons] at hcs
    obtain ⟨hc, hcs⟩ := hcs
    have hsmall := (case_facts hc).isAlphanum_toLower
    by_cases halnum : c.isAlphanum = true
    · have hnew := ih hcs (by simpa using hc) (continues_singleton halnum [])
      cases word with
      | nil =>
        rw [wordsFrom_nil_cons halnum, ← hnew, List.map_nil, wordsFrom_snakeFrom_nil halnum]
        rfl
      | cons p before =>
        obtain ⟨rfl, hp⟩ := h.eq_of_cons
        rw [List.map_cons, wordsFrom_snakeFrom_cons hp halnum]
        split
        · rename_i hb
          rw [wordsFrom_of_isBoundary halnum hb, List.map_append, List.map_append, ← List.map_cons,
            map_finished_toLower hword]
          exact congrArg _ hnew
        · rename_i hb
          rw [Bool.not_eq_true] at hb
          rw [wordsFrom_of_not_isBoundary halnum hb]
          exact ih hcs (List.forall_mem_cons.mpr ⟨hc, hword⟩) (continues_singleton halnum _)
    · rw [Bool.not_eq_true] at halnum
      have hupper : c.isUpper = false := by
        rw [← Bool.not_eq_true]
        exact fun hupper => by simp [isAlphanum_of_isUpper hupper] at halnum
      rw [halnum] at hsmall
      rw [snakeFrom_cons hc, hupper, Bool.false_and, if_neg Bool.false_ne_true, List.nil_append,
        wordsFrom_of_gap hsmall, wordsFrom_of_gap halnum, List.map_append, List.map_append,
        map_finished_toLower hword]
      exact congrArg _ (ih hcs (List.forall_mem_nil _) (continues_nil halnum))

end

theorem fragment_snakeCase {name : String} (h : isIdentifier name.toList = true) :
    fragment (snakeCase name) = fragment name := by
  have hstart : Continues none [] := rfl
  have hwords := map_wordsFrom_snakeFrom (isNameChar_of_isIdentifier h) (List.forall_mem_nil _)
    hstart
  rw [fragment, fragment, snakeCase, String.toList_ofList]
  exact congrArg (fun ws => String.ofList (join '_' ws)) hwords

/-! ### all of it -/

/-- A fragment keeps the letters and digits of a name, in capitals; it consists of words and numbers
with single underscores between them, and is empty only if nothing is kept.  It is its own fragment,
and the fragment of the small spelling where the name is an identifier. -/
theorem fragment_normalForm (name : String) :
    letters (fragment name) = (letters name).map Char.toUpper ∧
    (∀ other, fragment other = fragment name →
      (letters other).map Char.toUpper = (letters name).map Char.toUpper) ∧
    IsFragment (fragment name) ∧
    (fragment name = "" ↔ letters name = []) ∧
    fragment (fragment name) = fragment name ∧
    (isIdentifier name.toList = true → fragment (snakeCase name) = fragment name) := by
  refine ⟨letters_fragment name, fun other hother => ?_, isFragment_fragment name,
    fragment_eq_empty_iff name, fragment_of_isFragment (isFragment_fragment name),
    fragment_snakeCase⟩
  rw [← letters_fragment, ← letters_fragment, hother]

/-- an identifier with an abbreviation, numbers and two underscores side by side -/
theorem fragment_normalForm_mixed : fragment "_HTTPPort2x__aB" = "HTTP_PORT_2_X_A_B" ∧
    snakeCase "_HTTPPort2x__aB" = "_http_port2x__a_b" ∧
    isIdentifier "_HTTPPort2x__aB".toList = true ∧
    fragment (snakeCase "_HTTPPort2x__aB") = fragment "_HTTPPort2x__aB" := by
  have hname : isIdentifier "_HTTPPort2x__aB".toList = true := by decide +kernel
  obtain ⟨-, -, -, -, -, hsnake⟩ := fragment_normalForm "_HTTPPort2x__aB"
  exact ⟨by decide +kernel, by decide +kernel, hname, hsnake hname⟩

end EnvConfig.Naming
