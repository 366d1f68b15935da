import EnvConfig.Proofs.Naming.Identifiers
import EnvConfig.Proofs.Verification.Exact
import EnvConfig.Render.GoLoader

/-!
# Names of fields in Go

Camel case drops underscores, so it can run a capital of one word into a capital of the next: `AB`
is one word and `a_b` is two, and both are `AB` in Go.  Fragments keep the two apart, and so
emission lets them stand in one message.

* `Naming.fragment_eq_iff`: a fragment is the letters and digits of a name and the places where its
  words begin;
* `GoCode.marksFrom_camelFrom`: camel case shows where words begin, save inside abbreviations;
* `GoCode.fragment_eq_iff_of_fieldName_eq`: of names with one spelling in Go, those have one
  fragment that have abbreviations in the same places;
* `LoaderUnit.go_names_apart`: how two fields of a loader can have one name in Go, and which names
  cannot.
-/

namespace EnvConfig

open Text

/-! ### where words begin -/

namespace Naming

/-- one mark for each letter and digit in the rest of a name, from what stands around it -/
def marksFrom (mark : Option Char → Char → Option Char → Bool) (prev : Option Char) :
    List Char → List Bool
  | [] => []
  | c :: cs => (if c.isAlphanum then [mark prev c cs.head?] else []) ++ marksFrom mark (some c) cs

/-- a word begins with this letter or digit -/
def beginsWord (prev : Option Char) (c : Char) (next : Option Char) : Bool :=
  (prev.filter Char.isAlphanum).all (isBoundary · c next)

/-- the marks of the letters and digits with which words begin -/
def beginnings (name : String) : List Bool := marksFrom beginsWord none name.toList

/-- the marks of one word -/
def firstOf : List Char → List Bool
  | [] => []
  | _ :: cs => true :: cs.map fun _ => false

section
variable {mark mark' : Option Char → Char → Option Char → Bool} {prev : Option Char}
  {c p : Char} {word cs : List Char} {a b : String}

theorem marksFrom_of_isAlphanum (h : c.isAlphanum = true) :
    marksFrom mark prev (c :: cs) = mark prev c cs.head? :: marksFrom mark (some c) cs := by
  rw [marksFrom, if_pos h]
  rfl

theorem marksFrom_of_gap (h : c.isAlphanum = false) :
    marksFrom mark prev (c :: cs) = marksFrom mark (some c) cs := by
  rw [marksFrom, if_neg (by simp [h])]
  rfl

theorem length_marksFrom :
    (marksFrom mark prev cs).length = (cs.filter Char.isAlphanum).length := by
  induction cs generalizing prev with
  | nil => rfl
  | cons c cs ih =>
    by_cases h : c.isAlphanum = true
    · rw [marksFrom_of_isAlphanum h, List.filter_cons_of_pos h, List.length_cons, ih,
        List.length_cons]
    · rw [List.filter_cons_of_neg h, marksFrom_of_gap (Bool.not_eq_true _ ▸ h), ih]

/-- marks that differ in known places determine each other -/
theorem marksFrom_eq_zipWith {apart : Option Char → Char → Option Char → Bool}
    (h : ∀ prev c next, c.isAlphanum = true →
      mark prev c next = (mark' prev c next ^^ apart prev c next)) :
    marksFrom mark prev cs =
      List.zipWith xor (marksFrom mark' prev cs) (marksFrom apart prev cs) := by
  induction cs generalizing prev with
  | nil => rfl
  | cons c cs ih =>
    by_cases hc : c.isAlphanum = true
    · rw [marksFrom_of_isAlphanum hc, marksFrom_of_isAlphanum hc, marksFrom_of_isAlphanum hc,
        List.zipWith_cons_cons, h _ _ _ hc, ih]
    · rw [Bool.not_eq_true] at hc
      rw [marksFrom_of_gap hc, marksFrom_of_gap hc, marksFrom_of_gap hc, ih]

theorem firstOf_reverse_cons (c : Char) (word : List Char) :
    firstOf (c :: word).reverse = (finished word).flatMap firstOf ++ [word.isEmpty] := by
  cases word with
  | nil => rfl
  | cons p before =>
    obtain ⟨d, ds, hds⟩ := List.exists_cons_of_ne_nil (l := (p :: before).reverse) (by simp)
    rw [List.reverse_cons, finished, hds]
    simp [firstOf]

/-- the words of the rest of a name begin where the marks say -/
theorem flatMap_firstOf_wordsFrom (h : Continues prev word) :
    (wordsFrom word cs).flatMap firstOf =
      (finished word).flatMap firstOf ++ marksFrom beginsWord prev cs := by
  induction cs generalizing prev word with
  | nil => rw [wordsFrom, marksFrom, List.append_nil]
  | cons c cs ih =>
    by_cases hc : c.isAlphanum = true
    · have hmark : beginsWord prev c cs.head? = word.head?.all (isBoundary · c cs.head?) := by
        rw [beginsWord, h]
      have hnew := ih (continues_singleton hc [])
      rw [marksFrom_of_isAlphanum hc, hmark]
      cases word with
      | nil =>
        rw [wordsFrom_nil_cons hc, hnew]
        rfl
      | cons p before =>
        cases hb : isBoundary p c cs.head? with
        | true =>
          rw [wordsFrom_of_isBoundary hc hb, List.flatMap_append, hnew]
          simp [finished, firstOf, hb]
        | false =>
          have hlonger : (finished (c :: p :: before)).flatMap firstOf =
              firstOf (c :: p :: before).reverse := by simp [finished]
          rw [wordsFrom_of_not_isBoundary hc hb, ih (continues_singleton hc _), hlonger,
            firstOf_reverse_cons]
          simp [hb]
    · rw [Bool.not_eq_true] at hc
      rw [wordsFrom_of_gap hc, List.flatMap_append, marksFrom_of_gap hc, ih (continues_nil hc)]
      rfl

theorem flatMap_firstOf_words (name : String) :
    (words name.toList).flatMap firstOf = beginnings name := by
  have hstart : Continues none [] := rfl
  exact flatMap_firstOf_wordsFrom hstart

theorem firstOf_map (f : Char → Char) (w : List Char) : firstOf (w.map f) = firstOf w := by
  cases w <;> simp [firstOf]

/-- words are known from what they contain and where they begin -/
theorem eq_of_flatten_eq {ws vs : List (List Char)} (hws : ∀ w ∈ ws, w ≠ [])
    (hvs : ∀ w ∈ vs, w ≠ []) (h : ws.flatten = vs.flatten)
    (hfirst : ws.flatMap firstOf = vs.flatMap firstOf) : ws = vs := by
  -- the rest of a word reaches to the next `true`
  have hnext : ∀ (w : List Char) (us : List (List Char)), (∀ w ∈ us, w ≠ []) →
      (w.map (fun _ => false) ++ us.flatMap firstOf).takeWhile not = w.map fun _ => false := by
    intro w us hus
    rw [List.takeWhile_append_of_pos (by simp)]
    match us, hus with
    | [], _ => simp
    | [] :: us, hus => exact absurd rfl (hus [] List.mem_cons_self)
    | (c :: cs) :: us, _ => simp [firstOf]
  induction ws generalizing vs with
  | nil =>
    cases vs with
    | nil => rfl
    | cons v vs =>
      obtain ⟨d, ds, rfl⟩ := List.exists_cons_of_ne_nil (hvs v List.mem_cons_self)
      simp at h
  | cons w ws ih =>
    obtain ⟨c, cs, rfl⟩ := List.exists_cons_of_ne_nil (hws w List.mem_cons_self)
    cases vs with
    | nil => simp at h
    | cons v vs =>
      obtain ⟨d, ds, rfl⟩ := List.exists_cons_of_ne_nil (hvs v List.mem_cons_self)
      rw [List.forall_mem_cons] at hws hvs
      have hmarks : cs.map (fun _ => false) ++ ws.flatMap firstOf =
          ds.map (fun _ => false) ++ vs.flatMap firstOf := by simpa [firstOf] using hfirst
      have hlength : cs.length = ds.length := by
        have hrun := congrArg (List.takeWhile not) hmarks
        rw [hnext cs ws hws.2, hnext ds vs hvs.2] at hrun
        simpa using congrArg List.length hrun
      simp only [List.flatten_cons, List.cons_append, List.cons.injEq] at h
      obtain ⟨rfl, h⟩ := h
      obtain ⟨rfl, hrest⟩ := List.append_inj h hlength
      rw [ih hws.2 hvs.2 hrest (List.append_cancel_left hmarks)]

/-- the words of a name in capitals -/
theorem map_words_eq_iff : (words a.toList).map (·.map Char.toUpper) =
      (words b.toList).map (·.map Char.toUpper) ↔
    (letters a).map Char.toUpper = (letters b).map Char.toUpper ∧ beginnings a = beginnings b := by
  have hflat : ∀ name : String, ((words name.toList).map (·.map Char.toUpper)).flatten =
      (letters name).map Char.toUpper := by
    intro name
    rw [← List.map_flatten, words, flatten_wordsFrom]
    rfl
  have hfirst : ∀ name : String, ((words name.toList).map (·.map Char.toUpper)).flatMap firstOf =
      beginnings name := by
    intro name
    rw [List.flatMap_map, ← flatMap_firstOf_words]
    exact congrArg (fun f => (words name.toList).flatMap f) (funext (firstOf_map _))
  have hne : ∀ name : String, ∀ w ∈ (words name.toList).map (·.map Char.toUpper), w ≠ [] := by
    intro name
    rw [List.forall_mem_map]
    intro w hw
    exact fun hnil => (oneKind_of_mem_words hw).1 (List.map_eq_nil_iff.mp hnil)
  constructor
  · intro h
    rw [← hflat, ← hflat, ← hfirst, ← hfirst, h]
    exact ⟨rfl, rfl⟩
  · rintro ⟨hletters, hbegin⟩
    refine eq_of_flatten_eq (hne a) (hne b) ?_ ?_
    · rw [hflat, hflat, hletters]
    · rw [hfirst, hfirst, hbegin]

/-- names with one fragment have the same letters and digits, case aside, and words that begin in
the same places -/
theorem fragment_eq_iff : fragment a = fragment b ↔
    (letters a).map Char.toUpper = (letters b).map Char.toUpper ∧ beginnings a = beginnings b := by
  have hword : ∀ name : String, ∀ w ∈ (words name.toList).map (·.map Char.toUpper),
      IsFragmentWord w := by
    intro name
    rw [List.forall_mem_map]
    intro w hw
    obtain ⟨hne, hkind⟩ := oneKind_of_mem_words hw
    exact isWord_toUpper hne hkind
  rw [← map_words_eq_iff]
  constructor
  · intro h
    have hjoin := congrArg (fun s => words s.toList) h
    simpa only [fragment, String.toList_ofList, words_join (hword a), words_join (hword b)]
      using hjoin
  · intro h
    rw [fragment, fragment, h]

end

end Naming

/-! ### names in Go -/

namespace GoCode

open Naming

/-- a capital in the middle of a word: the word goes on from another capital, and no small letter
follows -/
def inAbbreviation (prev : Option Char) (c : Char) (next : Option Char) : Bool :=
  c.isUpper && prev.any Char.isUpper && !next.any isLowercase

/-- a capital, or the first digit of a number, or a small letter with no letter before it -/
def opens (prev : Option Char) (c : Char) (_ : Option Char) : Bool :=
  c.isUpper || c.isDigit && !prev.any Char.isDigit || c.isLower && !prev.any Char.isAlpha

/-- the letters and digits of a name that are capitals in the middle of a word -/
def abbreviations (name : String) : List Bool := marksFrom inAbbreviation none name.toList

/-- the name begins with an underscore, which camel case replaces by a letter -/
def isHidden (name : String) : Bool := name.toList.head? == some '_'

/-- the names have abbreviations in the same places, and an underscore at the front or none -/
structure SpelledAlike (a b : String) : Prop where
  hidden : isHidden a = isHidden b
  abbreviations : abbreviations a = abbreviations b

/-- a name with no abbreviation in it and no underscore at the front -/
def IsPlain (name : String) : Prop :=
  isHidden name = false ∧ ∀ mark ∈ abbreviations name, mark = false

instance (name : String) : Decidable (IsPlain name) := inferInstanceAs (Decidable (_ ∧ _))

section
variable {prev next : Option Char} {c p : Char} {cs : List Char} {inWord : Bool} {a b : String}

/-- a word begins where one opens, save in an abbreviation -/
theorem beginsWord_eq (hc : c.isAlphanum = true) :
    beginsWord prev c next = (opens prev c next ^^ inAbbreviation prev c next) := by
  cases prev with
  | none =>
    obtain ⟨h, h', h''⟩ | ⟨h, h', h''⟩ | ⟨h, h', h''⟩ := kind_cases hc <;>
      simp [beginsWord, opens, inAbbreviation, h, h', h'']
  | some p =>
    by_cases hp : p.isAlphanum = true
    · rw [beginsWord, Option.filter_some, if_pos hp]
      obtain ⟨h, h', h''⟩ | ⟨h, h', h''⟩ | ⟨h, h', h''⟩ := kind_cases hc <;>
        obtain ⟨k, k', k''⟩ | ⟨k, k', k''⟩ | ⟨k, k', k''⟩ := kind_cases hp <;>
        simp [isBoundary, opens, inAbbreviation, isAlpha_eq, h, h', h'', k, k', k'']
    · have hnone : p.isUpper = false ∧ p.isLower = false ∧ p.isDigit = false := by
        simpa [Char.isAlphanum, isAlpha_eq, and_assoc] using hp
      obtain ⟨k, k', k''⟩ := hnone
      rw [beginsWord, Option.filter_some, if_neg hp]
      obtain ⟨h, h', h''⟩ | ⟨h, h', h''⟩ | ⟨h, h', h''⟩ := kind_cases hc <;>
        simp [opens, inAbbreviation, isAlpha_eq, h, h', h'', k, k', k'']

theorem beginnings_eq (name : String) : beginnings name =
    List.zipWith xor (marksFrom opens none name.toList) (abbreviations name) :=
  marksFrom_eq_zipWith fun _ _ _ hc => beginsWord_eq hc

theorem abbreviations_eq (name : String) : abbreviations name =
    List.zipWith xor (marksFrom opens none name.toList) (beginnings name) := by
  refine marksFrom_eq_zipWith fun prev c next hc => ?_
  rw [beginsWord_eq hc, ← Bool.xor_assoc, Bool.xor_self, Bool.false_xor]

/-! ### camel case -/

/-- a letter in camel case; `inWord` says that small letters just go on -/
def camelLetter (inWord : Bool) (c : Char) : Char := if inWord && c.isLower then c else c.toUpper

theorem isAlpha_camelLetter (h : c.isAlpha = true) : (camelLetter inWord c).isAlpha = true := by
  unfold camelLetter
  split
  · exact h
  · exact Bool.or_eq_true_iff.mpr (.inl (isUpper_toUpper h))

theorem toUpper_camelLetter (h : c.isAlpha = true) :
    (camelLetter inWord c).toUpper = c.toUpper := by
  unfold camelLetter
  split
  · rfl
  · exact (isUpper_facts (isUpper_toUpper h)).toUpper

theorem camelFrom_of_isAlpha (h : c.isAlpha = true) :
    camelFrom inWord (c :: cs) = camelLetter inWord c :: camelFrom true cs := by
  have hmark : c ≠ '_' := by
    rintro rfl
    exact absurd h (by decide)
  rw [camelFrom, camelLetter]
  split
  · rfl
  · rw [if_neg (by simp [hmark]), if_neg (by simp [isDigit_of_isAlpha h, hmark])]

theorem camelFrom_of_isDigit (h : c.isDigit = true) :
    camelFrom inWord (c :: cs) = c :: camelFrom false cs := by
  have hmark : c ≠ '_' := by
    rintro rfl
    exact absurd h (by decide)
  rw [camelFrom, (isDigit_facts h).isLower, if_neg (by simp), if_neg (by simp [hmark]),
    if_pos (by simp [h])]

theorem isNameChar_camelFrom (h : ∀ c ∈ cs, isNameChar c = true) :
    ∀ c ∈ camelFrom inWord cs, isNameChar c = true := by
  induction cs generalizing inWord with
  | nil => exact List.forall_mem_nil _
  | cons c cs ih =>
    rw [List.forall_mem_cons] at h
    obtain ⟨hc, hcs⟩ := h
    have hkind := hc
    rw [isNameChar, Char.isAlphanum, Bool.or_eq_true, Bool.or_eq_true, beq_iff_eq] at hkind
    obtain (halpha | hdigit) | rfl := hkind
    · rw [camelFrom_of_isAlpha halpha, List.forall_mem_cons]
      exact ⟨isNameChar_of_isAlphanum (isAlphanum_of_isAlpha (isAlpha_camelLetter halpha)), ih hcs⟩
    · rw [camelFrom_of_isDigit hdigit, List.forall_mem_cons]
      exact ⟨hc, ih hcs⟩
    · rw [camelFrom_underscore]
      split
      · exact ih hcs
      · exact List.forall_mem_cons.mpr ⟨hc, ih hcs⟩

/-- camel case begins with no small letter -/
theorem isLower_head_camelFrom (hcs : ∀ c ∈ cs, isNameChar c = true) :
    (camelFrom false cs).head?.any Char.isLower = false := by
  induction cs with
  | nil => rfl
  | cons c cs ih =>
    rw [List.forall_mem_cons] at hcs
    obtain ⟨hc, hcs⟩ := hcs
    rw [isNameChar, Char.isAlphanum, Bool.or_eq_true, Bool.or_eq_true, beq_iff_eq] at hc
    obtain (hc | hc) | rfl := hc
    · rw [camelFrom_of_isAlpha hc]
      exact (isUpper_facts (isUpper_toUpper hc)).isLower
    · rw [camelFrom_of_isDigit hc]
      exact (isDigit_facts hc).isLower
    · rw [camelFrom_underscore]
      split
      · exact ih hcs
      · rfl

/-- the name of a field in Go has no other characters than names have -/
theorem isNameChar_fieldName {name : String} (h : isIdentifier name.toList = true) :
    ∀ c ∈ (fieldName name).toList, isNameChar c = true := by
  have hcs := isNameChar_of_isIdentifier h
  rw [fieldName, String.toList_ofList]
  revert hcs
  generalize name.toList = cs
  intro hcs
  unfold camel
  split
  · rw [List.forall_mem_cons] at hcs ⊢
    exact ⟨by decide, isNameChar_camelFrom hcs.2⟩
  · exact isNameChar_camelFrom hcs

/-- the name of a field in Go does not begin with a small letter -/
theorem exists_head_fieldName {name : String} (h : isIdentifier name.toList = true) :
    ∃ c ∈ (fieldName name).toList, c.isLower = false := by
  have hcs := isNameChar_of_isIdentifier h
  have hne : name.toList ≠ [] := fun hnil => by simp [hnil, isIdentifier] at h
  rw [fieldName, String.toList_ofList]
  revert hcs hne
  generalize name.toList = cs
  intro hcs hne
  unfold camel
  split
  · exact ⟨'X', List.mem_cons_self, by decide⟩
  · have hshown : camelFrom false cs ≠ [] := camelFrom_ne_nil hne
    obtain ⟨c, rest, hcamel⟩ := List.exists_cons_of_ne_nil hshown
    have hhead := isLower_head_camelFrom hcs
    rw [hcamel] at hhead ⊢
    exact ⟨c, List.mem_cons_self, hhead⟩

/-! ### where words open in camel case -/

theorem opens_of_isUpper (h : c.isUpper = true) : opens prev c next = true := by
  simp [opens, h]

theorem opens_of_isLower (h : c.isLower = true) : opens prev c next = !prev.any Char.isAlpha := by
  simp [opens, h, isLower_facts h]

theorem opens_of_isDigit (h : c.isDigit = true) : opens prev c next = !prev.any Char.isDigit := by
  simp [opens, h, (isDigit_facts h).isUpper, (isDigit_facts h).isLower]

variable {shown next' : Option Char}

theorem opens_camelLetter (h : c.isAlpha = true)
    (halpha : prev.any Char.isAlpha = true → shown.any Char.isAlpha = true) :
    opens shown (camelLetter (prev.any Char.isAlpha) c) next = opens prev c next' := by
  unfold camelLetter
  split
  · rename_i hgoes
    obtain ⟨hprev, hlower⟩ := Bool.and_eq_true_iff.mp hgoes
    rw [opens_of_isLower hlower, opens_of_isLower hlower, halpha hprev, hprev]
  · rename_i hopens
    rw [opens_of_isUpper (isUpper_toUpper h)]
    obtain hupper | hlower := Bool.or_eq_true_iff.mp h
    · exact (opens_of_isUpper hupper).symm
    · rw [opens_of_isLower hlower]
      simpa [hlower] using hopens

/-- the capital in place of a small letter after an underscore opens whatever is before it -/
theorem marksFrom_camelFrom_underscore :
    marksFrom opens shown (camelFrom inWord ('_' :: cs)) =
      marksFrom opens (some '_') (camelFrom false cs) := by
  rw [camelFrom_underscore]
  split
  · rename_i hsmall
    cases cs with
    | nil => cases hsmall
    | cons c cs =>
      have hc : c.isAlpha = true := by simpa [isAlpha_eq] using .inr hsmall
      have hupper := isUpper_toUpper hc
      have hletter : camelLetter false c = c.toUpper := rfl
      rw [camelFrom_of_isAlpha hc, hletter, marksFrom_of_isAlphanum (isAlphanum_of_isUpper hupper),
        marksFrom_of_isAlphanum (isAlphanum_of_isUpper hupper), opens_of_isUpper hupper,
        opens_of_isUpper hupper]
  · exact marksFrom_of_gap (by decide)

/-- letters and digits open in camel case where they do in the name -/
theorem marksFrom_camelFrom (prev shown : Option Char) (hcs : ∀ c ∈ cs, isNameChar c = true)
    (halpha : prev.any Char.isAlpha = true → shown.any Char.isAlpha = true)
    (hdigit : shown.any Char.isDigit = prev.any Char.isDigit) :
    marksFrom opens shown (camelFrom (prev.any Char.isAlpha) cs) = marksFrom opens prev cs := by
  induction cs generalizing prev shown with
  | nil => rfl
  | cons c cs ih =>
    rw [List.forall_mem_cons] at hcs
    obtain ⟨hc, hcs⟩ := hcs
    rw [isNameChar, Char.isAlphanum, Bool.or_eq_true, Bool.or_eq_true, beq_iff_eq] at hc
    obtain (hc | hc) | rfl := hc
    · have hletter : (camelLetter (prev.any Char.isAlpha) c).isAlpha = true :=
        isAlpha_camelLetter hc
      have hnext := ih (some c) (some (camelLetter (prev.any Char.isAlpha) c)) hcs
        (fun _ => hletter) (by simp [isDigit_of_isAlpha, hc, hletter])
      rw [Option.any_some, hc] at hnext
      rw [camelFrom_of_isAlpha hc, marksFrom_of_isAlphanum (isAlphanum_of_isAlpha hletter),
        marksFrom_of_isAlphanum (isAlphanum_of_isAlpha hc), opens_camelLetter hc halpha, hnext]
    · have halnum := isAlphanum_of_isDigit hc
      have hkind : c.isAlpha = false :=
        Bool.eq_false_iff.mpr fun halpha => by simp [isDigit_of_isAlpha halpha] at hc
      have hnext := ih (some c) (some c) hcs id rfl
      rw [Option.any_some, hkind] at hnext
      rw [camelFrom_of_isDigit hc, marksFrom_of_isAlphanum halnum, marksFrom_of_isAlphanum halnum,
        opens_of_isDigit hc, opens_of_isDigit hc, hdigit, hnext]
    · have hnext := ih (some '_') (some '_') hcs id rfl
      have hkind : (some '_').any Char.isAlpha = false := by decide
      rw [hkind] at hnext
      rw [marksFrom_camelFrom_underscore, marksFrom_of_gap (by decide), hnext]

/-- camel case keeps the letters and digits of a name, case aside -/
theorem filter_camelFrom (hcs : ∀ c ∈ cs, isNameChar c = true) :
    ((camelFrom inWord cs).filter Char.isAlphanum).map Char.toUpper =
      (cs.filter Char.isAlphanum).map Char.toUpper := by
  induction cs generalizing inWord with
  | nil => rfl
  | cons c cs ih =>
    rw [List.forall_mem_cons] at hcs
    obtain ⟨hc, hcs⟩ := hcs
    rw [isNameChar, Char.isAlphanum, Bool.or_eq_true, Bool.or_eq_true, beq_iff_eq] at hc
    obtain (hc | hc) | rfl := hc
    · rw [camelFrom_of_isAlpha hc, List.filter_cons_of_pos (isAlphanum_of_isAlpha hc),
        List.filter_cons_of_pos (isAlphanum_of_isAlpha (isAlpha_camelLetter hc)), List.map_cons,
        List.map_cons, toUpper_camelLetter hc, ih hcs]
    · have halnum := isAlphanum_of_isDigit hc
      rw [camelFrom_of_isDigit hc, List.filter_cons_of_pos halnum, List.filter_cons_of_pos halnum,
        List.map_cons, List.map_cons, ih hcs]
    · have hgap : ¬ ('_' : Char).isAlphanum = true := by decide
      rw [camelFrom_underscore, List.filter_cons_of_neg hgap]
      split
      · exact ih hcs
      · rw [List.filter_cons_of_neg hgap, ih hcs]

/-- what the name of a field in Go shows of its name -/
theorem exists_shown {name : String} (h : isIdentifier name.toList = true) : ∃ shown,
    (fieldName name).toList = (if isHidden name then ['X'] else []) ++ shown ∧
    (shown.filter Char.isAlphanum).map Char.toUpper = (letters name).map Char.toUpper ∧
    marksFrom opens none shown = marksFrom opens none name.toList := by
  have hcs := isNameChar_of_isIdentifier h
  rw [fieldName, String.toList_ofList, isHidden, letters]
  revert hcs
  generalize name.toList = cs
  intro hcs
  unfold camel
  split
  · rename_i cs
    rw [List.forall_mem_cons] at hcs
    have hgap : ('_' : Char).isAlphanum = false := by decide
    have hmarks := marksFrom_camelFrom (some '_') none hcs.2 (by decide) (by decide)
    refine ⟨camelFrom false cs, rfl, ?_, ?_⟩
    · rw [filter_camelFrom hcs.2, List.filter_cons_of_neg (by simp [hgap])]
    · rw [marksFrom_of_gap hgap, ← hmarks]
      rfl
  · rename_i hfront
    have hhead : cs.head? ≠ some '_' := by
      intro hhead
      obtain ⟨rest, rfl⟩ := List.head?_eq_some_iff.mp hhead
      exact hfront rest rfl
    refine ⟨camelFrom false cs, ?_, filter_camelFrom hcs,
      marksFrom_camelFrom none none hcs id rfl⟩
    rw [if_neg (by simpa using hhead), List.nil_append]

theorem alike_of_fieldName_eq (ha : isIdentifier a.toList = true)
    (hb : isIdentifier b.toList = true) (h : fieldName a = fieldName b)
    (hhidden : isHidden a = isHidden b) :
    (letters a).map Char.toUpper = (letters b).map Char.toUpper ∧
    marksFrom opens none a.toList = marksFrom opens none b.toList := by
  obtain ⟨shown, htext, hletters, hopens⟩ := exists_shown ha
  obtain ⟨shown', htext', hletters', hopens'⟩ := exists_shown hb
  rw [h, htext', hhidden, List.append_cancel_left_eq] at htext
  rw [← hletters, ← hletters', ← hopens, ← hopens', htext]
  exact ⟨rfl, rfl⟩

/-- an underscore at the front is one more letter in Go -/
theorem isHidden_eq_of_fieldName_eq (ha : isIdentifier a.toList = true)
    (hb : isIdentifier b.toList = true) (h : fieldName a = fieldName b)
    (hletters : (letters a).map Char.toUpper = (letters b).map Char.toUpper) :
    isHidden a = isHidden b := by
  obtain ⟨shown, htext, hshown, -⟩ := exists_shown ha
  obtain ⟨shown', htext', hshown', -⟩ := exists_shown hb
  have hx : ('X' : Char).isAlphanum = true := by decide
  have hcount : (shown.filter Char.isAlphanum).length = (shown'.filter Char.isAlphanum).length := by
    simpa using congrArg List.length (hshown.trans (hletters.trans hshown'.symm))
  have htotal := congrArg (fun cs => (cs.filter Char.isAlphanum).length)
    (htext.symm.trans ((congrArg String.toList h).trans htext'))
  simp only [List.filter_append, List.length_append, hcount, Nat.add_right_cancel_iff] at htotal
  cases hia : isHidden a <;> cases hib : isHidden b <;> simp_all

/-- Of identifiers with one name in Go, those have one fragment that have abbreviations in the same
places, and an underscore at the front or none. -/
theorem fragment_eq_iff_of_fieldName_eq (ha : isIdentifier a.toList = true)
    (hb : isIdentifier b.toList = true) (h : fieldName a = fieldName b) :
    fragment a = fragment b ↔ SpelledAlike a b := by
  rw [fragment_eq_iff]
  constructor
  · rintro ⟨hletters, hbegin⟩
    have hhidden := isHidden_eq_of_fieldName_eq ha hb h hletters
    obtain ⟨-, hopens⟩ := alike_of_fieldName_eq ha hb h hhidden
    exact ⟨hhidden, by rw [abbreviations_eq, abbreviations_eq, hopens, hbegin]⟩
  · rintro ⟨hhidden, habbreviations⟩
    obtain ⟨hletters, hopens⟩ := alike_of_fieldName_eq ha hb h hhidden
    exact ⟨hletters, by rw [beginnings_eq, beginnings_eq, hopens, habbreviations]⟩

/-- plain names with one spelling in Go have one fragment -/
theorem spelledAlike_of_isPlain (ha : isIdentifier a.toList = true)
    (hb : isIdentifier b.toList = true) (hplain : IsPlain a) (hplain' : IsPlain b)
    (h : fieldName a = fieldName b) : SpelledAlike a b := by
  have hhidden : isHidden a = isHidden b := hplain.1.trans hplain'.1.symm
  obtain ⟨hletters, -⟩ := alike_of_fieldName_eq ha hb h hhidden
  have hlength : (abbreviations a).length = (abbreviations b).length := by
    rw [abbreviations, abbreviations, length_marksFrom, length_marksFrom]
    simpa [letters] using congrArg List.length hletters
  exact ⟨hhidden, (List.eq_replicate_iff.mpr ⟨hlength, hplain.2⟩).trans
    (List.eq_replicate_iff.mpr ⟨rfl, hplain'.2⟩).symm⟩

end

/-- the name of the method that puts values into a map -/
def mutatorName (slot : Slot) : String := "PutAll" ++ fieldName slot.name

/-- the code for a map declares one method, under this name -/
theorem mutatorCode_eq (type : String) (slot : Slot) : ∃ comment body, mutatorCode type slot =
    [comment, Code.block ("func (x *" ++ type ++ ") " ++ mutatorName slot ++
      "(values map[string]string)") body] := by
  have hput : ") PutAll" = ") " ++ "PutAll" := rfl
  have hhead : "func (x *" ++ type ++ ") PutAll" ++ fieldName slot.name =
      "func (x *" ++ type ++ ") " ++ mutatorName slot := by
    rw [mutatorName, hput]
    simp only [String.append_assoc]
  rw [← hhead]
  exact ⟨_, _, rfl⟩

end GoCode

/-- Two fields of a procedure, or two of its maps, can have one name in Go, but only where the one
has a capital in the middle of a word and the other begins a word with it, or where an underscore
at the front of the one makes the letter that the other has; emission lets all of these through.
Fields with plain names have names of their own in Go. -/
theorem LoaderUnit.go_names_apart {set : SchemaSet} {t : Target} {u : LoaderUnit}
    {name text : String} {p : Procedure} (hparsed : File.compile name text = .ok set.root)
    (hemit : LoaderUnit.emit set t = .ok u) (hp : p ∈ u.procedures) :
    (p.statements.Pairwise fun s s' =>
      GoCode.fieldName s.slot.name = GoCode.fieldName s'.slot.name →
        ¬ GoCode.SpelledAlike s.slot.name s'.slot.name) ∧
    (p.mapMutators.Pairwise fun slot slot' => GoCode.mutatorName slot = GoCode.mutatorName slot' →
      ¬ GoCode.SpelledAlike slot.name slot'.name) ∧
    (∀ a b : String, isIdentifier a.toList = true → isIdentifier b.toList = true →
      GoCode.fieldName a = GoCode.fieldName b →
        (Naming.fragment a = Naming.fragment b ↔ GoCode.SpelledAlike a b)) ∧
    ((∀ s ∈ p.statements, GoCode.IsPlain s.slot.name) →
      (p.statements.map fun s => GoCode.fieldName s.slot.name).Nodup ∧
      (p.mapMutators.map GoCode.mutatorName).Nodup) ∧
    ∀ type, ∀ slot ∈ p.mapMutators, ∃ comment body, GoCode.mutatorCode type slot =
      [comment, Code.block ("func (x *" ++ type ++ ") " ++ GoCode.mutatorName slot ++
        "(values map[string]string)") body] := by
  have hname : ∀ s ∈ p.statements, isIdentifier s.slot.name.toList = true :=
    fun s hs => isIdentifier_name hparsed hemit hp hs
  have hpairs : p.statements.Pairwise fun s s' =>
      GoCode.fieldName s.slot.name = GoCode.fieldName s'.slot.name →
        ¬ GoCode.SpelledAlike s.slot.name s'.slot.name := by
    refine (pairwise_fragment_ne hemit hp).imp_of_mem fun hs hs' hne heq halike => ?_
    exact hne ((GoCode.fragment_eq_iff_of_fieldName_eq (hname _ hs) (hname _ hs') heq).mpr halike)
  have hmutator : ∀ slot slot' : Slot, GoCode.mutatorName slot = GoCode.mutatorName slot' →
      GoCode.fieldName slot.name = GoCode.fieldName slot'.name :=
    fun slot slot' h => String.append_right_inj _ |>.mp h
  refine ⟨hpairs, ?_, fun a b ha hb h => GoCode.fragment_eq_iff_of_fieldName_eq ha hb h,
    fun hplain => ?_, fun type slot _ => GoCode.mutatorCode_eq type slot⟩
  · exact Procedure.pairwise_mapMutators (hpairs.imp fun h heq => h (hmutator _ _ heq))
  · have hapart : p.statements.Pairwise fun s s' =>
        GoCode.fieldName s.slot.name ≠ GoCode.fieldName s'.slot.name :=
      hpairs.imp_of_mem fun hs hs' h heq =>
        h heq (GoCode.spelledAlike_of_isPlain (hname _ hs) (hname _ hs') (hplain _ hs)
          (hplain _ hs') heq)
    exact ⟨List.pairwise_map.mpr hapart, List.pairwise_map.mpr
      (Procedure.pairwise_mapMutators (hapart.imp fun h heq => h (hmutator _ _ heq)))⟩

/-- a message with plain spellings of names, two of them for maps -/
def plainText : String :=
  "message M { string max2 = 1; map<string,string> tags_b = 2; map<string,string> UserTags = 3; }"

def plainSchema : SchemaSet where
  root := { File.empty "flags.proto" with
    messages := [⟨"M", ⟨1, 9⟩,
      [⟨"max2", ⟨1, 20⟩, .named "string", 1, .plain, [], .all⟩,
        ⟨"tags_b", ⟨1, 49⟩, .map "string" "string", 2, .plain, [], .all⟩,
        ⟨"UserTags", ⟨1, 80⟩, .map "string" "string", 3, .plain, [], .all⟩], [], .all⟩] }
  imports := []

def plainProcedure : Procedure :=
  ⟨"M", [.scalar ⟨"max2", "MAX_2"⟩ .string, .mergeMap ⟨"tags_b", "TAGS_B"⟩,
    .mergeMap ⟨"UserTags", "USER_TAGS"⟩]⟩

theorem go_names_apart_plain :
    File.compile "flags.proto" plainText = .ok plainSchema.root ∧
    LoaderUnit.emit plainSchema ⟨"go"⟩ = .ok ⟨"flags.proto", [plainProcedure]⟩ ∧
    (∀ s ∈ plainProcedure.statements, GoCode.IsPlain s.slot.name) ∧
    (plainProcedure.statements.map fun s => GoCode.fieldName s.slot.name) =
      ["Max2", "TagsB", "UserTags"] ∧
    (plainProcedure.statements.map fun s => GoCode.fieldName s.slot.name).Nodup ∧
    (plainProcedure.mapMutators.map GoCode.mutatorName).Nodup := by
  have hparsed : File.compile "flags.proto" plainText = .ok plainSchema.root := by
    decide +kernel
  have hemit : LoaderUnit.emit plainSchema ⟨"go"⟩ = .ok ⟨"flags.proto", [plainProcedure]⟩ := by
    decide +kernel
  have hplain : ∀ s ∈ plainProcedure.statements, GoCode.IsPlain s.slot.name := by decide +kernel
  obtain ⟨-, -, -, hnodup, -⟩ := LoaderUnit.go_names_apart hparsed hemit List.mem_cons_self
  exact ⟨hparsed, hemit, hplain, by decide +kernel, hnodup hplain⟩

/-- two maps, the name of the first being one word and that of the second two -/
def mergedText : String :=
  "message Flags { map<string,string> AB = 1; map<string,string> a_b = 2; }"

def mergedSchema : SchemaSet where
  root := { File.empty "flags.proto" with
    messages := [⟨"Flags", ⟨1, 9⟩,
      [⟨"AB", ⟨1, 36⟩, .map "string" "string", 1, .plain, [], .all⟩,
        ⟨"a_b", ⟨1, 63⟩, .map "string" "string", 2, .plain, [], .all⟩], [], .all⟩] }
  imports := []

def mergedProcedure : Procedure :=
  ⟨"Flags", [.mergeMap ⟨"AB", "AB"⟩, .mergeMap ⟨"a_b", "A_B"⟩]⟩

/-- The fragments are two and the name in Go is one: both maps are stored in one field, and a method
is declared twice. -/
theorem go_names_merged :
    File.compile "flags.proto" mergedText = .ok mergedSchema.root ∧
    mergedSchema.verify = .ok () ∧
    LoaderUnit.emit mergedSchema ⟨"go"⟩ = .ok ⟨"flags.proto", [mergedProcedure]⟩ ∧
    (mergedProcedure.statements.map fun s => GoCode.fieldName s.slot.name) = ["AB", "AB"] ∧
    (mergedProcedure.mapMutators.map GoCode.mutatorName) = ["PutAllAB", "PutAllAB"] ∧
    ¬ (mergedProcedure.statements.map fun s => GoCode.fieldName s.slot.name).Nodup ∧
    ¬ (mergedProcedure.mapMutators.map GoCode.mutatorName).Nodup := by
  refine ⟨by decide +kernel, ?_, by decide +kernel, by decide +kernel, by decide +kernel,
    by decide +kernel, by decide +kernel⟩
  exact SchemaSet.verify_of_rank (fun _ => 0) (by decide +kernel) (by decide +kernel)
    (by decide +kernel) (by decide +kernel)

end EnvConfig
