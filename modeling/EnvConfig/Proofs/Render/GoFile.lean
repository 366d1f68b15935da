import EnvConfig.Text.Segment

/-!
# Imports of a file in Go

A file in Go begins with a clause that names its package.  Its imports come next, before anything
else is declared.  The end of a line is the end of a statement if the last token of the line can be
the last one of a statement.

* `GoFile.tokens`: the tokens of a text;
* `GoFile.Phase`: how far the clause and the imports have been read;
* `GoFile.imports?`: the imports of a file;
* `GoFile.opening?`: the imports of a text that has the clause and imports in it and nothing else,
  so that more of them can follow.

Comments other than line comments, literals other than quoted ones and escapes in them are not read:
a text that has them before its declarations has no imports here, as a text that is not in Go.
-/

namespace EnvConfig.GoFile

open Text

/-! ### tokens -/

inductive Token where
  /-- a keyword, a name or a number -/
  | word (text : String)
  /-- what stands between two quotes -/
  | literal (text : String)
  /-- any other character; and a semicolon for a line end that ends a statement -/
  | mark (c : Char)
deriving Repr, DecidableEq

/-- what the next character of a line comes behind -/
inductive Place where
  | between
  | word (cs : List Char)
  | literal (cs : List Char)
  | slash
  | comment

/-- the token that ends with the line, if there is one -/
def Place.atEnd : Place → List Token
  | between | comment => []
  | word cs => [.word (String.ofList cs)]
  | literal _ => [.mark '"']
  | slash => [.mark '/']

/-- a character that belongs to no token before it -/
def begin (c : Char) : List Token × Place :=
  if isNameChar c then ([], .word [c])
  else if c = ' ' ∨ c = '\t' ∨ c = '\r' then ([], .between)
  else if c = '"' then ([], .literal [])
  else if c = '/' then ([], .slash)
  else ([.mark c], .between)

/-- a character and the tokens that are complete with it -/
def Place.next (place : Place) (c : Char) : List Token × Place :=
  match place with
  | between => begin c
  | word cs =>
    if isNameChar c then ([], word (cs ++ [c])) else (place.atEnd ++ (begin c).1, (begin c).2)
  | literal cs =>
    if c = '"' then ([.literal (String.ofList cs)], between)
    else if c = '\\' then ([.mark c], between)
    else ([], literal (cs ++ [c]))
  | slash => if c = '/' then ([], comment) else (place.atEnd ++ (begin c).1, (begin c).2)
  | comment => ([], comment)

/-- the tokens of the rest of a line -/
def tokensFrom (place : Place) : List Char → List Token
  | [] => place.atEnd
  | c :: cs => (place.next c).1 ++ tokensFrom (place.next c).2 cs

def keywords : List String :=
  ["break", "case", "chan", "const", "continue", "default", "defer", "else", "fallthrough", "for",
    "func", "go", "goto", "if", "import", "interface", "map", "package", "range", "return",
    "select", "struct", "switch", "type", "var"]

/-- the word is a name -/
def isName (text : String) : Bool := isIdentifier text.toList && !keywords.contains text

/-- A line that ends with the token ends a statement.  This is so before the first declaration that
is no import; in the code behind it, a few more keywords and marks can end one. -/
def Token.endsStatement : Token → Bool
  | word text => !keywords.contains text
  | literal _ => true
  | mark c => c == ')'

def lineTokens (line : List Char) : List Token :=
  let ts := tokensFrom .between line
  if ts.getLast?.any Token.endsStatement then ts ++ [.mark ';'] else ts

def tokens (cs : List Char) : List Token := (segments '\n' cs).flatMap lineTokens

/-! ### imports -/

/-- the name that a file gives to a package, empty if it gives none, and the path of the package -/
structure Imported where
  name : String
  path : String
deriving Repr, DecidableEq

/-- what the next token of a file comes behind -/
inductive Phase where
  | start
  /-- the word `package` -/
  | package
  /-- the clause, an import or a group of them -/
  | complete (inGroup : Bool)
  /-- the end of the clause, of an import or of a group -/
  | ready
  /-- the word `import`, or what is before an import in a group -/
  | importing (inGroup : Bool)
  /-- the name of an import -/
  | named (name : String) (inGroup : Bool)
  /-- the first word of another declaration -/
  | code
  /-- what is not read -/
  | refused
deriving Repr, DecidableEq

def Phase.next : Phase → Token → Phase
  | start, .word text => if text = "package" then package else refused
  | package, .word text => if isName text then complete false else refused
  | complete false, .mark ';' => ready
  | complete true, .mark ';' => importing true
  | complete true, .mark ')' => complete false
  | ready, .word text => if text = "import" then importing false else code
  | importing inGroup, .word text => if isName text then named text inGroup else refused
  | importing inGroup, .mark '.' => named "." inGroup
  | importing inGroup, .literal _ => complete inGroup
  | importing false, .mark '(' => importing true
  | importing true, .mark ')' => complete false
  | named _ inGroup, .literal _ => complete inGroup
  | code, _ => code
  | _, _ => refused

/-- the import that is complete with a token -/
def Phase.imported? : Phase → Token → Option Imported
  | importing _, .literal path => some ⟨"", path⟩
  | named name _, .literal path => some ⟨name, path⟩
  | _, _ => none

def phaseAfter (phase : Phase) (ts : List Token) : Phase := ts.foldl Phase.next phase

/-- the imports that are complete with tokens behind `phase` -/
def importsFrom (phase : Phase) : List Token → List Imported
  | [] => []
  | t :: ts => (phase.imported? t).toList ++ importsFrom (phase.next t) ts

/-- the imports of a file -/
def imports? (cs : List Char) : Option (List Imported) :=
  let phase := phaseAfter .start (tokens cs)
  if phase = .ready ∨ phase = .code then some (importsFrom .start (tokens cs)) else none

/-- the imports of a text that has nothing behind them -/
def opening? (cs : List Char) : Option (List Imported) :=
  if phaseAfter .start (tokens cs) = .ready then some (importsFrom .start (tokens cs)) else none

/-- From `phase` tokens lead to `phase'`, and these are the imports in them. -/
structure Reads (phase : Phase) (ts : List Token) (phase' : Phase) (is : List Imported) : Prop where
  phaseAfter : phaseAfter phase ts = phase'
  importsFrom : importsFrom phase ts = is

variable {phase phase' phase'' : Phase} {ts us : List Token} {is js : List Imported}
  {cs : List Char}

theorem Reads.nil : Reads phase [] phase [] := ⟨rfl, rfl⟩

theorem Reads.cons {t : Token} (h : Reads (phase.next t) ts phase' is) :
    Reads phase (t :: ts) phase' ((phase.imported? t).toList ++ is) :=
  ⟨h.phaseAfter, congrArg _ h.importsFrom⟩

theorem Reads.append (h : Reads phase ts phase' is) (h' : Reads phase' us phase'' js) :
    Reads phase (ts ++ us) phase'' (is ++ js) := by
  induction ts generalizing phase is with
  | nil =>
    obtain ⟨rfl, rfl⟩ := h
    exact h'
  | cons t ts ih =>
    obtain ⟨hphase, rfl⟩ := h
    rw [GoFile.importsFrom, List.append_assoc]
    exact .cons (ih ⟨hphase, rfl⟩)

/-- behind the first word of a declaration nothing is imported -/
theorem reads_code (ts : List Token) : Reads .code ts .code [] := by
  induction ts with
  | nil => exact .nil
  | cons t ts ih => exact .cons ih

theorem opening?_eq_some : opening? cs = some is ↔ Reads .start (tokens cs) .ready is := by
  rw [opening?, Option.ite_none_right_eq_some, Option.some.injEq]
  exact ⟨fun h => ⟨h.1, h.2⟩, fun h => ⟨h.phaseAfter, h.importsFrom⟩⟩

/-- what follows an opening is read on its own -/
theorem imports?_of_opening? {front : List Char} (hfront : opening? front = some is)
    (htokens : tokens cs = tokens front ++ ts) (hts : Reads .ready ts phase js)
    (hphase : phase = .ready ∨ phase = .code) : imports? cs = some (is ++ js) := by
  have hread := (opening?_eq_some.mp hfront).append hts
  rw [imports?, htokens, hread.phaseAfter, hread.importsFrom, if_pos hphase]

/-! ### tokens of some texts -/

theorem tokens_of_not_mem (h : '\n' ∉ cs) : tokens cs = lineTokens cs := by
  rw [tokens, segments_of_not_mem h, List.flatMap_singleton]

theorem tokens_append_cons (cs ds : List Char) :
    tokens (cs ++ '\n' :: ds) = tokens cs ++ tokens ds := by
  rw [tokens, segments_append_cons, List.flatMap_append]
  rfl

/-- what is read off a text is read off its lines -/
theorem tokens_lines {ls : List String} (hne : ls ≠ []) :
    tokens ("\n".intercalate ls).toList = ls.flatMap (tokens ·.toList) := by
  have hparts : ls.map String.toList ≠ [] := fun h => hne (List.map_eq_nil_iff.mp h)
  rw [toList_lines, tokens, segments, segmentsWhere_join (by simp) hparts, List.flatMap_map,
    List.flatMap_assoc]
  rfl

theorem tokensFrom_comment (cs : List Char) : tokensFrom .comment cs = [] := by
  induction cs with
  | nil => rfl
  | cons c cs ih => exact ih

/-- a line comment has no tokens -/
theorem tokens_comment (h : '\n' ∉ cs) : tokens ('/' :: '/' :: cs) = [] := by
  have hline : '\n' ∉ '/' :: '/' :: cs := by simpa using h
  have hnone : tokensFrom .between ('/' :: '/' :: cs) = [] := tokensFrom_comment cs
  rw [tokens_of_not_mem hline, lineTokens, hnone]
  rfl

theorem tokensFrom_word (h : ∀ c ∈ cs, isNameChar c = true) (front ds : List Char) :
    tokensFrom (.word front) (cs ++ ds) = tokensFrom (.word (front ++ cs)) ds := by
  induction cs generalizing front with
  | nil => rw [List.append_nil, List.nil_append]
  | cons c cs ih =>
    rw [List.forall_mem_cons] at h
    have hnext : (Place.word front).next c = ([], .word (front ++ [c])) := if_pos h.1
    rw [List.cons_append, tokensFrom, hnext, ih h.2, List.append_assoc]
    rfl

/-- a word where a token may begin -/
theorem tokensFrom_of_isIdentifier (h : isIdentifier cs = true) (ds : List Char) :
    tokensFrom .between (cs ++ ds) = tokensFrom (.word cs) ds := by
  cases cs with
  | nil => cases h
  | cons c cs =>
    have hname := isNameChar_of_isIdentifier h
    rw [List.forall_mem_cons] at hname
    have hnext : Place.between.next c = ([], .word [c]) := if_pos hname.1
    rw [List.cons_append, tokensFrom, hnext, tokensFrom_word hname.2]
    rfl

theorem oneLine_of_isIdentifier (h : isIdentifier cs = true) : '\n' ∉ cs :=
  fun hmem => absurd (isNameChar_of_isIdentifier h _ hmem) (by decide)

/-- a word with a blank behind it, and anything behind that -/
theorem exists_tokens_word {word : String} (h : isIdentifier word.toList = true) (cs : List Char) :
    ∃ ts, tokens (word.toList ++ ' ' :: cs) = .word word :: ts := by
  have hlead : ∀ c ∈ word.toList ++ [' '], (c == '\n') = false := by
    rw [List.forall_mem_append, List.forall_mem_singleton]
    refine ⟨fun c hc => beq_eq_false_iff_ne.mpr ?_, by decide⟩
    rintro rfl
    exact oneLine_of_isIdentifier h hc
  obtain ⟨line, rest, -, hlines⟩ := exists_segmentsWhere_append hlead cs
  rw [List.append_assoc, List.append_assoc, List.singleton_append, List.singleton_append] at hlines
  have hline : tokensFrom .between (word.toList ++ ' ' :: line) =
      .word word :: tokensFrom .between line := by
    have hblank : tokensFrom (.word word.toList) (' ' :: line) =
        .word (String.ofList word.toList) :: tokensFrom .between line := rfl
    rw [tokensFrom_of_isIdentifier h, hblank, String.ofList_toList]
  have hfirst : ∃ ts, lineTokens (word.toList ++ ' ' :: line) = .word word :: ts := by
    rw [lineTokens, hline]
    split
    · exact ⟨_, rfl⟩
    · exact ⟨_, rfl⟩
  obtain ⟨ts, hts⟩ := hfirst
  refine ⟨ts ++ rest.flatMap lineTokens, ?_⟩
  rw [tokens, segments, hlines, List.flatMap_cons, hts]
  rfl

/-- the clause that names the package -/
theorem tokens_clause {name : String} (h : isName name = true) :
    tokens ("package " ++ name).toList = [.word "package", .word name, .mark ';'] := by
  rw [isName, Bool.and_eq_true] at h
  have hline : '\n' ∉ ("package " ++ name).toList := by
    rw [String.toList_append, List.mem_append]
    exact not_or.mpr ⟨by decide, oneLine_of_isIdentifier h.1⟩
  have hname : tokensFrom .between name.toList = [.word name] := by
    have hword := tokensFrom_of_isIdentifier h.1 []
    rw [List.append_nil] at hword
    rw [hword, tokensFrom, Place.atEnd, String.ofList_toList]
  have hclause : tokensFrom .between ("package " ++ name).toList =
      [.word "package", .word name] := by
    rw [String.toList_append]
    exact congrArg (Token.word "package" :: ·) hname
  rw [tokens_of_not_mem hline, lineTokens, hclause]
  exact if_pos h.2

end EnvConfig.GoFile
