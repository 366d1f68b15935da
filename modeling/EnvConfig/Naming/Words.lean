import EnvConfig.Text.Case
import EnvConfig.Text.Segment

/-!
# Words inside names

Names are declared in any spelling: `serviceName`, `service_name`, `HTTPPort`.  Two views of a name
as words are used.

* `fragment`: the words in capitals with underscores between them, as they stand in the name of an
  environment variable.  A word is a run of ASCII letters or a run of digits.
* `snakeCase`: the name in small letters, with an underscore before each new word that began with a
  capital.  Digits stay with the word before them, and no character but letters changes.
* `flatten_wordsFrom`, `wordsFrom_append_underscore`: the words of a name have all letters and
  digits of it in them, and an underscore at its end changes none.
-/

namespace EnvConfig.Naming

open Text

/-- a new word begins at `c`, directly after `p` and before `next` -/
def isBoundary (p c : Char) (next : Option Char) : Bool :=
  (c.isDigit && p.isAlpha) || (c.isAlpha && p.isDigit) || (c.isUpper && p.isLower) ||
    (c.isUpper && p.isUpper && next.any isLowercase)

/-- the word whose reverse is `word`, if it has begun -/
def finished (word : List Char) : List (List Char) := if word.isEmpty then [] else [word.reverse]

/-- the words of a name, the first of which has begun with the reverse of `word` -/
def wordsFrom (word : List Char) : List Char → List (List Char)
  | [] => finished word
  | c :: cs =>
    if !c.isAlphanum then finished word ++ wordsFrom [] cs
    else match word with
      | [] => wordsFrom [c] cs
      | p :: before =>
        if isBoundary p c cs.head? then finished (p :: before) ++ wordsFrom [c] cs
        else wordsFrom (c :: p :: before) cs

/-- the words of a name -/
def words (name : List Char) : List (List Char) := wordsFrom [] name

/-- what a field adds to the name of its variable -/
def fragment (name : String) : String :=
  String.ofList (join '_' ((words name.toList).map (·.map Char.toUpper)))

/-- an underscore goes before the capital that stands after `prev` and before `next` -/
def startsWord (prev next : Option Char) : Bool :=
  prev.any fun p => p != '_' && (!isUppercase p || next.any isLowercase)

/-- the small spelling of a name that goes on after `prev` -/
def snakeFrom (prev : Option Char) : List Char → List Char
  | [] => []
  | c :: cs =>
    (if isUppercase c then (if startsWord prev cs.head? then ['_'] else []) ++ toLower c
      else [c]) ++ snakeFrom (some c) cs

def snakeCase (name : String) : String := String.ofList (snakeFrom none name.toList)

/-! ### words of the rest of a name -/

section
variable {c p : Char} {word before cs : List Char}

theorem wordsFrom_of_gap (h : c.isAlphanum = false) :
    wordsFrom word (c :: cs) = finished word ++ wordsFrom [] cs := by
  rw [wordsFrom.eq_def]
  exact if_pos (by rw [h]; rfl)

theorem wordsFrom_nil_cons (h : c.isAlphanum = true) :
    wordsFrom [] (c :: cs) = wordsFrom [c] cs := by
  rw [wordsFrom, if_neg (by simp [h])]

theorem wordsFrom_of_isBoundary (h : c.isAlphanum = true) (hb : isBoundary p c cs.head? = true) :
    wordsFrom (p :: before) (c :: cs) = finished (p :: before) ++ wordsFrom [c] cs := by
  rw [wordsFrom, if_neg (by simp [h]), if_pos hb]

theorem wordsFrom_of_not_isBoundary (h : c.isAlphanum = true)
    (hb : isBoundary p c cs.head? = false) :
    wordsFrom (p :: before) (c :: cs) = wordsFrom (c :: p :: before) cs := by
  rw [wordsFrom, if_neg (by simp [h]), if_neg (by simp [hb])]

theorem flatten_finished (word : List Char) : (finished word).flatten = word.reverse := by
  cases word <;> simp [finished]

theorem finished_map (f : Char → Char) (word : List Char) :
    finished (word.map f) = (finished word).map (·.map f) := by
  cases word <;> simp [finished]

theorem finished_reverse (h : word ≠ []) : finished word.reverse = [word] := by
  simp [finished, h]

/-- no letter or digit is lost -/
theorem flatten_wordsFrom (word cs : List Char) :
    (wordsFrom word cs).flatten = word.reverse ++ cs.filter Char.isAlphanum := by
  fun_induction wordsFrom word cs with
  | case1 word => simp [flatten_finished]
  | case2 word c cs hc ih =>
    rw [Bool.not_eq_true'] at hc
    simp [flatten_finished, ih, hc]
  | case3 c cs hc ih =>
    rw [Bool.not_eq_true, Bool.not_eq_false'] at hc
    simp [ih, hc]
  | case4 c cs hc p before hb ih =>
    rw [Bool.not_eq_true, Bool.not_eq_false'] at hc
    simp [flatten_finished, ih, hc]
  | case5 c cs hc p before hb ih =>
    rw [Bool.not_eq_true, Bool.not_eq_false'] at hc
    simp [ih, hc]

theorem isBoundary_append_underscore (p c : Char) (cs : List Char) :
    isBoundary p c (cs ++ ['_']).head? = isBoundary p c cs.head? := by
  cases cs with
  | nil =>
    have hmark : isLowercase '_' = false := by decide
    simp [isBoundary, hmark]
  | cons d cs => rfl

theorem wordsFrom_append_underscore (word cs : List Char) :
    wordsFrom word (cs ++ ['_']) = wordsFrom word cs := by
  fun_induction wordsFrom word cs with
  | case1 word =>
    rw [List.nil_append, wordsFrom_of_gap (by decide)]
    exact List.append_nil _
  | case2 word c cs hc ih =>
    rw [Bool.not_eq_true'] at hc
    rw [List.cons_append, wordsFrom_of_gap hc, ih]
  | case3 c cs hc ih =>
    rw [Bool.not_eq_true, Bool.not_eq_false'] at hc
    rw [List.cons_append, wordsFrom_nil_cons hc, ih]
  | case4 c cs hc p before hb ih =>
    rw [Bool.not_eq_true, Bool.not_eq_false'] at hc
    rw [← isBoundary_append_underscore] at hb
    rw [List.cons_append, wordsFrom_of_isBoundary hc hb, ih]
  | case5 c cs hc p before hb ih =>
    rw [Bool.not_eq_true, Bool.not_eq_false'] at hc
    rw [Bool.not_eq_true, ← isBoundary_append_underscore] at hb
    rw [List.cons_append, wordsFrom_of_not_isBoundary hc hb, ih]

/-- an underscore at the end of a name is not in its fragment -/
theorem fragment_append_underscore (s : String) : fragment (s ++ "_") = fragment s := by
  have htext : (s ++ "_").toList = s.toList ++ ['_'] := by simp
  rw [fragment, fragment, words, words, htext, wordsFrom_append_underscore]

end

end EnvConfig.Naming
