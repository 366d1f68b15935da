import EnvConfig.Proofs.Printing.Scanning
import EnvConfig.Proofs.Render.Lines

/-!
# Brackets of rendered code

Brackets are nested if each of them has its partner, with nested brackets in between.  A stack of
the brackets that are still due decides it in one walk, and a walk over a text that is put together
goes through its parts.  Code has nested brackets as soon as its single lines and heads have: the
brackets around bodies are the only ones that are open across lines.

* `Nested`, `Balanced`: what nested brackets are;
* `follow`, `balanced_iff`: the walk that decides it;
* `uncommented`: a text without the lines that are comments;
* `Closed`, `Leaves.closed`, `Leaves.fixed`: texts on one line that can be parts of such a line,
  put together from fixed texts and from closed ones;
* `Code.Sound`, `Code.tidy_allLines`: code whose lines have nested brackets.
-/

namespace EnvConfig

namespace Text

/-! ### nested brackets -/

/-- the bracket that closes `c` -/
def closing? (c : Char) : Option Char :=
  if c = '(' then some ')' else if c = '[' then some ']' else if c = '\x7b' then some '\x7d'
  else none

def isBracket (c : Char) : Bool :=
  c == '(' || c == ')' || c == '[' || c == ']' || c == '\x7b' || c == '\x7d'

/-- no bracket, no end of a line, and not what comments begin with -/
def isPlain (c : Char) : Bool := !isBracket c && c != '\n' && c != '/'

def brackets (cs : List Char) : List Char := cs.filter isBracket

/-- each bracket has its partner, and what stands in between is nested too -/
inductive Nested : List Char → Prop
  | nil : Nested []
  | pair {opening closing : Char} {inside rest : List Char} (h : closing? opening = some closing)
      (hinside : Nested inside) (hrest : Nested rest) :
      Nested (opening :: (inside ++ closing :: rest))

/-- the brackets of the text are nested -/
def Balanced (cs : List Char) : Prop := Nested (brackets cs)

variable {cs ds stack stack' stack'' : List Char} {c d : Char}

theorem Nested.append (hcs : Nested cs) (hds : Nested ds) : Nested (cs ++ ds) := by
  induction hcs with
  | nil => exact hds
  | pair h hinside _ _ ih =>
    rw [List.cons_append, List.append_assoc, List.cons_append]
    exact .pair h hinside ih

theorem brackets_append (cs ds : List Char) : brackets (cs ++ ds) = brackets cs ++ brackets ds :=
  List.filter_append ..

theorem closing?_cases (h : closing? c = some d) :
    (c = '(' ∧ d = ')') ∨ (c = '[' ∧ d = ']') ∨ (c = '\x7b' ∧ d = '\x7d') := by
  unfold closing? at h
  split at h
  · exact .inl ⟨by assumption, (Option.some.inj h).symm⟩
  · split at h
    · exact .inr (.inl ⟨by assumption, (Option.some.inj h).symm⟩)
    · split at h
      · exact .inr (.inr ⟨by assumption, (Option.some.inj h).symm⟩)
      · cases h

/-- brackets that belong together are brackets, and the second one opens nothing -/
theorem closing?_facts (h : closing? c = some d) :
    isBracket c = true ∧ isBracket d = true ∧ closing? d = none := by
  obtain ⟨rfl, rfl⟩ | ⟨rfl, rfl⟩ | ⟨rfl, rfl⟩ := closing?_cases h <;> decide

/-! ### a walk with a stack -/

/-- a step of a walk over a part of a line with no comment in it: `stack` has the brackets that are
due, the next one first -/
def step (stack : List Char) (c : Char) : Option (List Char) :=
  match closing? c with
  | some closing => some (closing :: stack)
  | none =>
    if isBracket c then
      match stack with
      | due :: stack => if c = due then some stack else none
      | [] => none
    else if isPlain c then some stack
    else none

/-- what is due after the text -/
def follow (stack cs : List Char) : Option (List Char) := cs.foldlM step stack

theorem follow_nil (stack : List Char) : follow stack [] = some stack := rfl

theorem follow_cons (stack : List Char) (c : Char) (cs : List Char) :
    follow stack (c :: cs) = (step stack c).bind (follow · cs) := List.foldlM_cons ..

theorem follow_append (stack cs ds : List Char) :
    follow stack (cs ++ ds) = (follow stack cs).bind (follow · ds) := List.foldlM_append ..

theorem isPlain_facts (h : isPlain c = true) : isBracket c = false ∧ c ≠ '\n' ∧ c ≠ '/' := by
  simpa [isPlain, and_assoc] using h

/-- a bracket is opened or the due one is closed, or another character is passed by -/
theorem step_cases (h : step stack c = some stack') :
    (∃ closing, closing? c = some closing ∧ stack' = closing :: stack) ∨
    (isBracket c = true ∧ closing? c = none ∧ stack = c :: stack') ∨
    (isPlain c = true ∧ stack' = stack) := by
  unfold step at h
  split at h
  · rename_i closing hclosing
    exact .inl ⟨closing, hclosing, (Option.some.inj h).symm⟩
  · rename_i hclosing
    split at h
    · rename_i hbracket
      split at h
      · rename_i due stack
        split at h
        · rename_i hdue
          cases h
          exact .inr (.inl ⟨hbracket, hclosing, by rw [hdue]⟩)
        · cases h
      · cases h
    · split at h
      · rename_i hplain
        exact .inr (.inr ⟨hplain, (Option.some.inj h).symm⟩)
      · cases h

theorem step_opening (h : closing? c = some d) (stack : List Char) :
    step stack c = some (d :: stack) := by
  simp only [step, h]

theorem step_due (hbracket : isBracket c = true) (hnone : closing? c = none) (stack : List Char) :
    step (c :: stack) c = some stack := by
  simp only [step, hnone, hbracket, if_true]

theorem step_closing (h : closing? c = some d) (stack : List Char) :
    step (d :: stack) d = some stack :=
  step_due (closing?_facts h).2.1 (closing?_facts h).2.2 stack

theorem step_plain (h : isPlain c = true) (stack : List Char) : step stack c = some stack := by
  have hbracket := (isPlain_facts h).1
  have hnone : closing? c = none := by
    by_contra hsome
    obtain ⟨d, hd⟩ := Option.ne_none_iff_exists'.mp hsome
    rw [(closing?_facts hd).1] at hbracket
    cases hbracket
  simp only [step, hnone, hbracket, Bool.false_eq_true, if_false, h, if_true]

/-- what is due later on does no harm -/
theorem step_frame (h : step stack c = some stack') (later : List Char) :
    step (stack ++ later) c = some (stack' ++ later) := by
  obtain ⟨closing, hclosing, rfl⟩ | ⟨hbracket, hnone, rfl⟩ | ⟨hplain, rfl⟩ := step_cases h
  · exact step_opening hclosing _
  · exact step_due hbracket hnone _
  · exact step_plain hplain _

theorem follow_frame (h : follow stack cs = some stack') (later : List Char) :
    follow (stack ++ later) cs = some (stack' ++ later) := by
  induction cs generalizing stack with
  | nil =>
    cases h
    rfl
  | cons c cs ih =>
    rw [follow_cons, Option.bind_eq_some_iff] at h ⊢
    obtain ⟨next, hstep, hrest⟩ := h
    exact ⟨next ++ later, step_frame hstep later, ih hrest⟩

/-- nested brackets, and behind each group of them the next bracket that is due -/
inductive Closes : List Char → List Char → Prop
  | last {cs : List Char} (h : Nested cs) : Closes [] cs
  | next {cs ds stack : List Char} {due : Char} (h : Nested cs) (hrest : Closes stack ds) :
      Closes (due :: stack) (cs ++ due :: ds)

theorem Closes.pair (h : closing? c = some d) (hcs : Nested cs) (hds : Closes stack ds) :
    Closes stack (c :: (cs ++ d :: ds)) := by
  cases hds with
  | last hds => exact .last (.pair h hcs hds)
  | @next _ _ _ due hcs' hds' =>
    have hnext := @Closes.next _ _ _ due (.pair h hcs hcs') hds'
    rwa [List.cons_append, List.append_assoc, List.cons_append] at hnext

/-- a walk that leaves nothing due has gone along nested brackets -/
theorem closes_of_follow (h : follow stack cs = some []) : Closes stack (brackets cs) := by
  induction cs generalizing stack with
  | nil =>
    cases h
    exact .last .nil
  | cons c cs ih =>
    rw [follow_cons, Option.bind_eq_some_iff] at h
    obtain ⟨stack', hstep, hrest⟩ := h
    have hcloses := ih hrest
    obtain ⟨closing, hclosing, rfl⟩ | ⟨hbracket, -, rfl⟩ | ⟨hplain, rfl⟩ := step_cases hstep
    · rw [brackets, List.filter_cons_of_pos (closing?_facts hclosing).1]
      generalize hrest : cs.filter isBracket = rest
      rw [brackets, hrest] at hcloses
      cases hcloses with
      | next hcs hds => exact .pair hclosing hcs hds
    · rw [brackets, List.filter_cons_of_pos hbracket]
      exact Closes.next .nil hcloses
    · rw [brackets, List.filter_cons_of_neg (Bool.eq_false_iff.mp (isPlain_facts hplain).1)]
      exact hcloses

/-- what is neither a bracket nor passed by is not in a text that a walk goes through -/
theorem not_mem_of_follow (h : follow stack cs = some stack') (hbracket : isBracket c = false)
    (hplain : isPlain c = false) : c ∉ cs := by
  induction cs generalizing stack with
  | nil => exact List.not_mem_nil
  | cons d cs ih =>
    rw [follow_cons, Option.bind_eq_some_iff] at h
    obtain ⟨stack', hstep, hrest⟩ := h
    refine fun hmem => (List.mem_cons.mp hmem).elim ?_ (ih hrest)
    rintro rfl
    obtain ⟨closing, hclosing, -⟩ | ⟨hbracket', -, -⟩ | ⟨hplain', -⟩ := step_cases hstep
    · exact absurd ((closing?_facts hclosing).1.symm.trans hbracket) (by decide)
    · exact absurd (hbracket'.symm.trans hbracket) (by decide)
    · exact absurd (hplain'.symm.trans hplain) (by decide)

theorem balanced_of_follow (h : follow [] cs = some []) : Balanced cs := by
  cases closes_of_follow h with
  | last h => exact h

/-- nested brackets leave due what was due before them -/
theorem Nested.follow_append (h : Nested cs) (stack ds : List Char) :
    follow stack (cs ++ ds) = follow stack ds := by
  induction h generalizing stack ds with
  | nil => rfl
  | pair hclosing _ _ ihinside ihrest =>
    rw [List.cons_append, follow_cons, step_opening hclosing, Option.bind_some, List.append_assoc,
      ihinside, List.cons_append, follow_cons, step_closing hclosing, Option.bind_some, ihrest]

theorem balanced_iff : Balanced cs ↔ follow [] (brackets cs) = some [] := by
  refine ⟨fun h => ?_, fun h => ?_⟩
  · have hfollow := Nested.follow_append h [] []
    rwa [List.append_nil] at hfollow
  · have hbalanced := balanced_of_follow h
    rwa [Balanced, brackets, brackets, List.filter_filter, funext fun c => Bool.and_self _]
      at hbalanced

instance : DecidablePred Balanced := fun _ => decidable_of_iff _ balanced_iff.symm

example : Balanced ['(', '[', ']', ')'] ∧ ¬ Balanced ['(', '[', ')', ']'] := by decide

/-! ### comments -/

/-- the line begins with two slashes, behind blanks or not -/
def isComment (line : List Char) : Bool := ['/', '/'].isPrefixOf (line.dropWhile isBlank)

theorem mem_of_isComment {line : List Char} (h : isComment line = true) : '/' ∈ line := by
  have hslashes := List.isPrefixOf_iff_prefix.mp h
  exact (List.dropWhile_sublist _).mem (hslashes.mem List.mem_cons_self)

/-- the text without the lines that are comments -/
def uncommented (cs : List Char) : List Char :=
  join '\n' ((segments '\n' cs).filter (!isComment ·))

/-- the brackets of lines that are no comments -/
def keptBrackets (ls : List String) : List Char :=
  ((ls.map String.toList).filter (!isComment ·)).flatMap brackets

theorem keptBrackets_append (ls ls' : List String) :
    keptBrackets (ls ++ ls') = keptBrackets ls ++ keptBrackets ls' := by
  simp only [keptBrackets, List.map_append, List.filter_append, List.flatMap_append]

theorem keptBrackets_cons (l : String) (ls : List String) :
    keptBrackets (l :: ls) = keptBrackets [l] ++ keptBrackets ls := keptBrackets_append [l] ls

theorem keptBrackets_of_isComment {l : String} (h : isComment l.toList = true) :
    keptBrackets [l] = [] := by
  simp [keptBrackets, h]

theorem keptBrackets_of_not_isComment {l : String} (h : isComment l.toList = false) :
    keptBrackets [l] = brackets l.toList := by
  simp [keptBrackets, h]

theorem keptBrackets_of_not_mem {l : String} (h : '/' ∉ l.toList) :
    keptBrackets [l] = brackets l.toList :=
  keptBrackets_of_not_isComment
    (Bool.eq_false_iff.mpr fun hcomment => h (mem_of_isComment hcomment))

theorem brackets_join (parts : List (List Char)) :
    brackets (join '\n' parts) = parts.flatMap brackets := by
  induction parts with
  | nil => rfl
  | cons part parts ih =>
    cases parts with
    | nil => rw [join, List.flatMap_singleton]
    | cons next parts =>
      rw [join, brackets_append, List.flatMap_cons, ← ih]
      rfl

/-- Lines with no line feed in any of them.  Those that are no comments first have the brackets in
`due`, and nested ones from there on. -/
structure Tidy (due : List Char) (ls : List String) : Prop where
  oneLine : ∀ l ∈ ls, '\n' ∉ l.toList
  nested : ∃ rest, Nested rest ∧ keptBrackets ls = due ++ rest

theorem tidy_nil : Tidy [] [] := ⟨List.forall_mem_nil _, [], .nil, rfl⟩

theorem Tidy.append {due : List Char} {ls ls' : List String} (h : Tidy due ls) (h' : Tidy [] ls') :
    Tidy due (ls ++ ls') := by
  obtain ⟨rest, hrest, hkept⟩ := h.nested
  obtain ⟨rest', hrest', hkept'⟩ := h'.nested
  refine ⟨List.forall_mem_append.mpr ⟨h.oneLine, h'.oneLine⟩, rest ++ rest',
    hrest.append hrest', ?_⟩
  rw [keptBrackets_append, hkept, hkept', List.nil_append, List.append_assoc]

/-- a line that ends in an opening bracket, what stands inside, and what begins with its partner -/
theorem Tidy.pair {due : List Char} {l : String} {inside rest : List String}
    {opening closing : Char} (hl : '\n' ∉ l.toList) (hcs : Nested cs)
    (hkept : keptBrackets [l] = due ++ (cs ++ [opening])) (h : closing? opening = some closing)
    (hinside : Tidy [] inside) (hrest : Tidy [closing] rest) :
    Tidy due (l :: (inside ++ rest)) := by
  obtain ⟨is, his, hinsideKept⟩ := hinside.nested
  obtain ⟨rs, hrs, hrestKept⟩ := hrest.nested
  have hall := List.forall_mem_append.mpr ⟨hinside.oneLine, hrest.oneLine⟩
  refine ⟨List.forall_mem_cons.mpr ⟨hl, hall⟩,
    cs ++ opening :: (is ++ closing :: rs), hcs.append (.pair h his hrs), ?_⟩
  rw [keptBrackets_cons, keptBrackets_append, hkept, hinsideKept, hrestKept]
  simp only [List.append_assoc, List.cons_append, List.nil_append]

/-- the text with these lines -/
theorem Tidy.balanced_of_segments {ls : List String} (h : Tidy [] ls)
    (hcs : segments '\n' cs = ls.map String.toList) : Balanced (uncommented cs) := by
  obtain ⟨rest, hrest, hkept⟩ := h.nested
  have hbrackets : brackets (uncommented cs) = rest := by
    rw [uncommented, brackets_join, hcs]
    exact hkept
  rw [Balanced, hbrackets]
  exact hrest

theorem Tidy.balanced {ls : List String} (h : Tidy [] ls) :
    Balanced (uncommented ("\n".intercalate ls).toList) := by
  by_cases hne : ls = []
  · subst hne
    exact .nil
  · refine h.balanced_of_segments ?_
    rw [toList_lines]
    exact segments_join (by simpa using hne) (List.forall_mem_map.mpr h.oneLine)

/-! ### parts of texts -/

/-- a part of a line, without slashes, that leaves the brackets `due` to be closed -/
def Leaves (due : List Char) (text : String) : Prop := follow [] text.toList = some due

/-- on one line, with nested brackets and without slashes -/
def Closed (text : String) : Prop := Leaves [] text

instance : DecidablePred Closed := fun _ => inferInstanceAs (Decidable (_ = _))

/-- A literal is a text that is given by its characters; to evaluate its `toList` instead takes
long. -/
theorem leaves_ofList {due : List Char} (h : follow [] cs = some due) :
    Leaves due (String.ofList cs) := by
  rwa [Leaves, String.toList_ofList]

theorem closed_ofList (h : follow [] cs = some []) : Closed (String.ofList cs) := leaves_ofList h

/-- A text that is put together leaves what its fixed parts leave, if the others are closed: those
are gone through with what is due kept.  The fixed parts need not be closed one by one. -/
theorem Leaves.closed {due : List Char} {a b : String} (ha : Leaves due a) (hb : Closed b) :
    Leaves due (a ++ b) := by
  rw [Leaves, String.toList_append, follow_append, ha, Option.bind_some]
  exact follow_frame hb due

theorem Leaves.fixed {due due' : List Char} {a : String} (ha : Leaves due a)
    (hcs : follow due cs = some due') : Leaves due' (a ++ String.ofList cs) := by
  rw [Leaves, String.toList_append, String.toList_ofList, follow_append, ha, Option.bind_some, hcs]

/-- a closed part of a text leaves due what was due before -/
theorem Closed.follow {text : String} (h : Closed text) (stack : List Char) :
    follow stack text.toList = some stack := follow_frame h stack

theorem Closed.append {a b : String} (ha : Closed a) (hb : Closed b) : Closed (a ++ b) :=
  Leaves.closed ha hb

theorem Closed.oneLine {text : String} (h : Closed text) : '\n' ∉ text.toList :=
  not_mem_of_follow h (by decide) (by decide)

/-- a line with nested brackets -/
theorem Tidy.of_closed {text : String} (h : Closed text) : Tidy [] [text] :=
  ⟨List.forall_mem_singleton.mpr h.oneLine, _, balanced_of_follow h,
    keptBrackets_of_not_mem (not_mem_of_follow h (by decide) (by decide))⟩

/-- a text of characters that are passed by -/
def Plain (text : String) : Prop := ∀ c ∈ text.toList, isPlain c = true

theorem Plain.append {a b : String} (ha : Plain a) (hb : Plain b) : Plain (a ++ b) := by
  rw [Plain, String.toList_append]
  exact List.forall_mem_append.mpr ⟨ha, hb⟩

theorem Plain.closed {text : String} (h : Plain text) : Closed text := by
  unfold Plain at h
  unfold Closed Leaves
  generalize text.toList = cs at h
  induction cs with
  | nil => rfl
  | cons c cs ih =>
    rw [List.forall_mem_cons] at h
    rw [follow_cons, step_plain h.1, Option.bind_some]
    exact ih h.2

theorem isPlain_of_isNameChar {c : Char} (h : isNameChar c = true) : isPlain c = true := by
  have hall := forall_nameChar (p := fun c => !isNameChar c || isPlain c)
    (by decide +kernel) h
  simpa [h] using hall

theorem closed_of_isNameChar {text : String} (h : ∀ c ∈ text.toList, isNameChar c = true) :
    Closed text :=
  Plain.closed fun c hc => isPlain_of_isNameChar (h c hc)

/-- a comment on one line -/
structure IsCommentLine (text : String) : Prop where
  isComment : isComment text.toList = true
  oneLine : '\n' ∉ text.toList

theorem isCommentLine_ofList (h : isComment cs = true) (hfeed : '\n' ∉ cs) :
    IsCommentLine (String.ofList cs) :=
  ⟨by rwa [String.toList_ofList], by rwa [String.toList_ofList]⟩

theorem IsCommentLine.append {a b : String} (h : IsCommentLine a) (hb : '\n' ∉ b.toList) :
    IsCommentLine (a ++ b) := by
  refine ⟨?_, ?_⟩
  · obtain ⟨rest, hrest⟩ := List.isPrefixOf_iff_prefix.mp h.isComment
    rw [Text.isComment, String.toList_append, List.dropWhile_append, ← hrest]
    rfl
  · rw [String.toList_append, List.mem_append]
    exact not_or.mpr ⟨h.oneLine, hb⟩

theorem Tidy.of_comment {text : String} (h : IsCommentLine text) : Tidy [] [text] :=
  ⟨List.forall_mem_singleton.mpr h.oneLine, [], .nil, keptBrackets_of_isComment h.isComment⟩

end Text

namespace Code

open Text

/-! ### code -/

mutual

/-- the lines of the code are tidy, and its blocks have heads behind which nothing is due -/
def Sound : Code → Prop
  | line text => Tidy [] [text]
  | empty => True
  | blocks parts => parts ≠ [] ∧ PartsSound parts
  | group head body => Closed head ∧ AllSound body

def PartsSound : List (String × List Code) → Prop
  | [] => True
  | (head, body) :: parts => Closed head ∧ AllSound body ∧ PartsSound parts

def AllSound : List Code → Prop
  | [] => True
  | c :: cs => Sound c ∧ AllSound cs

end

theorem allSound_iff {code : List Code} : AllSound code ↔ ∀ c ∈ code, Sound c := by
  induction code with
  | nil => exact iff_of_true trivial (List.forall_mem_nil _)
  | cons c code ih => rw [AllSound, List.forall_mem_cons, ih]

theorem AllSound.append {code code' : List Code} (h : AllSound code) (h' : AllSound code') :
    AllSound (code ++ code') := by
  rw [allSound_iff] at h h' ⊢
  exact List.forall_mem_append.mpr ⟨h, h'⟩

theorem sound_block {head : String} {body : List Code} (h : Closed head) (hbody : AllSound body) :
    Sound (block head body) :=
  ⟨List.cons_ne_nil _ _, h, hbody, trivial⟩

theorem allSound_flatMap {α : Type} {as : List α} {f : α → List Code}
    (h : ∀ a ∈ as, AllSound (f a)) : AllSound (as.flatMap f) := by
  refine allSound_iff.mpr fun c hc => ?_
  obtain ⟨a, ha, hc⟩ := List.mem_flatMap.mp hc
  exact allSound_iff.mp (h a ha) c hc

theorem allSound_separated {pieces : List (List Code)} (h : ∀ piece ∈ pieces, AllSound piece) :
    AllSound (separated pieces) := by
  induction pieces with
  | nil => trivial
  | cons piece pieces ih =>
    rw [List.forall_mem_cons] at h
    cases pieces with
    | nil => exact h.1
    | cons next pieces => exact h.1.append ⟨trivial, ih h.2⟩

/-- what indents the lines of code: blanks -/
structure IsTab (tab : String) : Prop where
  isBlank : ∀ c ∈ tab.toList, isBlank c = true
  plain : Plain tab

variable {tab : String} {n : Nat}

theorem IsTab.indentation (h : IsTab tab) (n : Nat) : IsTab (indentation tab n) := by
  induction n with
  | zero => exact ⟨List.forall_mem_nil _, List.forall_mem_nil _⟩
  | succ n ih =>
    have hsucc : Code.indentation tab (n + 1) = tab ++ Code.indentation tab n := String.join_cons
    rw [hsucc]
    refine ⟨?_, h.plain.append ih.plain⟩
    rw [String.toList_append]
    exact List.forall_mem_append.mpr ⟨h.isBlank, ih.isBlank⟩

/-- blanks in front of a line neither make nor unmake a comment, and are no brackets -/
theorem IsTab.keptBrackets (h : IsTab tab) (text : String) :
    keptBrackets [tab ++ text] = keptBrackets [text] := by
  have hcomment : isComment (tab ++ text).toList = isComment text.toList := by
    rw [isComment, isComment, String.toList_append, List.dropWhile_append_of_pos h.isBlank]
  have hbrackets : brackets (tab ++ text).toList = brackets text.toList := by
    rw [String.toList_append, brackets_append, brackets, List.filter_eq_nil_iff.mpr,
      List.nil_append]
    intro c hc
    exact Bool.eq_false_iff.mp (isPlain_facts (h.plain c hc)).1
  cases hline : isComment text.toList with
  | true => rw [keptBrackets_of_isComment hline, keptBrackets_of_isComment (hcomment.trans hline)]
  | false =>
    rw [keptBrackets_of_not_isComment hline, keptBrackets_of_not_isComment (hcomment.trans hline),
      hbrackets]

theorem IsTab.oneLine_append {text : String} (h : IsTab tab) (htext : '\n' ∉ text.toList) :
    '\n' ∉ (tab ++ text).toList := by
  rw [String.toList_append, List.mem_append]
  exact not_or.mpr ⟨h.plain.closed.oneLine, htext⟩

theorem IsTab.tidy {due : List Char} {text : String} (htab : IsTab tab) (h : Tidy due [text]) :
    Tidy due [tab ++ text] := by
  refine ⟨List.forall_mem_singleton.mpr (htab.oneLine_append ?_), ?_⟩
  · exact h.oneLine text List.mem_cons_self
  · rw [htab.keptBrackets]
    exact h.nested

/-- what may stand in front of the head of a block -/
def leads : List String := ["", "\x7d "]

/-- a block behind its head -/
theorem IsTab.tidy_block {head lead : String} {inside rest : List String} {c d : Char}
    (htab : IsTab tab) (hlead : lead ∈ leads) (h : Closed head) (hc : closing? c = some d)
    (hinside : Tidy [] inside) (hrest : Tidy [d] rest) : Tidy (brackets lead.toList)
      ((tab ++ lead ++ head ++ String.ofList [' ', c]) :: (inside ++ rest)) := by
  have hopening : brackets (String.ofList [' ', c]).toList = [c] := by
    rw [String.toList_ofList, brackets, List.filter_cons_of_neg (by decide),
      List.filter_cons_of_pos (closing?_facts hc).1, List.filter_nil]
  obtain ⟨due, hdue⟩ : ∃ due, follow due lead.toList = some [] := by
    simp only [leads, List.mem_cons, List.not_mem_nil, or_false] at hlead
    obtain rfl | rfl := hlead
    · exact ⟨[], rfl⟩
    · exact ⟨['\x7d'], rfl⟩
  have hline : follow due (lead ++ head ++ String.ofList [' ', c]).toList = some [d] := by
    rw [String.toList_append, String.toList_append, String.toList_ofList, follow_append,
      follow_append, hdue, Option.bind_some, h.follow, Option.bind_some, follow_cons,
      step_plain (by decide), Option.bind_some, follow_cons, step_opening hc, Option.bind_some,
      follow_nil]
  have hassoc : tab ++ lead ++ head ++ String.ofList [' ', c] =
      tab ++ (lead ++ head ++ String.ofList [' ', c]) := by
    simp only [String.append_assoc]
  rw [hassoc]
  have hfeed := not_mem_of_follow hline (c := '\n') (by decide) (by decide)
  have hslash := not_mem_of_follow hline (c := '/') (by decide) (by decide)
  refine Tidy.pair (htab.oneLine_append hfeed) (balanced_of_follow h) ?_ hc hinside hrest
  rw [htab.keptBrackets, keptBrackets_of_not_mem hslash, String.toList_append,
    String.toList_append, brackets_append, brackets_append, hopening, List.append_assoc]

theorem IsTab.tidy_closing {closing : Char} (htab : IsTab tab)
    (h : closing = '\x7d' ∨ closing = ')') : Tidy [closing] [tab ++ String.ofList [closing]] := by
  refine htab.tidy ⟨List.forall_mem_singleton.mpr ?_, [], .nil, ?_⟩
  · obtain rfl | rfl := h <;> decide
  · obtain rfl | rfl := h <;> decide

mutual

theorem tidy_lines (htab : IsTab tab) : ∀ (c : Code) (n : Nat), Sound c → Tidy [] (lines tab n c)
  | line text, n, h => (htab.indentation n).tidy h
  | empty, n, _ => ⟨List.forall_mem_singleton.mpr List.not_mem_nil, [], .nil, rfl⟩
  | blocks parts, n, h => tidy_partLines htab parts n "" (by decide) (fun _ => h.1) h.2
  | group head body, n, h => by
    have htab' := htab.indentation n
    have hlead : "" ∈ leads := List.mem_cons_self
    have hgroup := htab'.tidy_block hlead h.1 (c := '(') (by decide)
      (tidy_allLines htab body (n + 1) h.2) (htab'.tidy_closing (.inr rfl))
    rwa [String.append_empty] at hgroup

theorem tidy_partLines (htab : IsTab tab) : ∀ (parts : List (String × List Code)) (n : Nat)
    (lead : String), lead ∈ leads → (lead = "" → parts ≠ []) → PartsSound parts →
      Tidy (brackets lead.toList) (partLines tab n lead parts)
  | [], n, lead, hlead, hne, _ => by
    simp only [leads, List.mem_cons, List.not_mem_nil, or_false] at hlead
    obtain rfl := hlead.resolve_left fun h => hne h rfl
    exact (htab.indentation n).tidy_closing (.inl rfl)
  | (head, body) :: parts, n, lead, hlead, _, h =>
    (htab.indentation n).tidy_block hlead h.1 (c := '\x7b') (by decide)
      (tidy_allLines htab body (n + 1) h.2.1)
      (tidy_partLines htab parts n "\x7d " (by decide) (fun h => absurd h (by decide)) h.2.2)

/-- the lines of sound code -/
theorem tidy_allLines (htab : IsTab tab) : ∀ (code : List Code) (n : Nat), AllSound code →
    Tidy [] (allLines tab n code)
  | [], _, _ => tidy_nil
  | c :: cs, n, h => (tidy_lines htab c n h.1).append (tidy_allLines htab cs n h.2)

end

/-- the text of sound code -/
theorem balanced_text {code : List Code} (htab : IsTab tab) (h : AllSound code)
    (hne : allLines tab 0 code ≠ []) : Balanced (uncommented (text tab code).toList) := by
  have hlines := tidy_allLines htab code 0 h
  have hend : Tidy [] [""] := .of_closed rfl
  refine (hlines.append hend).balanced_of_segments ?_
  rw [segments_text hne hlines.oneLine, List.map_append]
  rfl

end Code

end EnvConfig
