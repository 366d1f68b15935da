import EnvConfig.Text.Basic
import EnvConfig.Text.Segment

/-!
# The next lexeme of a text

A lexeme is a comment, a string literal, a number, a name, a mark or a run of blanks.  Each kind
has a scanner: a function that cuts its lexeme off the front of a text, if one stands there.

* `Scanner.Cuts`: what is cut off is not empty, and with the rest it makes up the text again;
* `lexeme?`: the first kind, in the order above, that finds its lexeme.
-/

namespace EnvConfig.Lexeme

open Text

/-- cuts something off the front of a text, or finds nothing there -/
abbrev Scanner := List Char → Option (List Char × List Char)

/-- what `s` cuts off is a non-empty start of the text -/
def Scanner.Cuts (s : Scanner) : Prop :=
  ∀ cs piece rest, s cs = some (piece, rest) → piece ++ rest = cs ∧ piece ≠ []

/-- the longest start of characters with `p`, if it is not empty -/
def run (p : Char → Bool) : Scanner := fun cs =>
  if (cs.takeWhile p).isEmpty then none else some (cs.takeWhile p, cs.dropWhile p)

/-- the one character `c` -/
def single (p : Char → Bool) : Scanner
  | c :: cs => if p c then some ([c], cs) else none
  | [] => none

/-! ### comments -/

/-- up to the next `*/`, which is cut off too -/
def toCommentEnd : Scanner
  | '*' :: '/' :: cs => some (['*', '/'], cs)
  | c :: cs => (toCommentEnd cs).map fun (piece, rest) => (c :: piece, rest)
  | [] => none

/-- from `/*` to the first `*/` after it -/
def blockComment : Scanner
  | '/' :: '*' :: cs => (toCommentEnd cs).map fun (piece, rest) => ('/' :: '*' :: piece, rest)
  | _ => none

/-- from `//` to before the end of the line -/
def lineComment : Scanner
  | '/' :: '/' :: cs =>
    some ('/' :: '/' :: cs.takeWhile (· != '\n'), cs.dropWhile (· != '\n'))
  | _ => none

/-! ### string literals -/

/-- the rest of a literal after its opening `quote`: a backslash takes any character with it, and
no other line feed stands inside -/
def toClosing (quote : Char) : Scanner
  | [] => none
  | '\\' :: c :: cs =>
    (toClosing quote cs).map fun (piece, rest) => ('\\' :: c :: piece, rest)
  | c :: cs =>
    if c = quote then some ([c], cs)
    else if c = '\\' ∨ c = '\n' then none
    else (toClosing quote cs).map fun (piece, rest) => (c :: piece, rest)

def literal (quote : Char) : Scanner
  | c :: cs =>
    if c = quote then (toClosing quote cs).map fun (piece, rest) => (c :: piece, rest) else none
  | [] => none

def doubleQuote : Char := '"'
def singleQuote : Char := Char.ofNat 0x27

/-! ### numbers -/

/-- `e` or `E`, a sign or none, decimal digits; nothing is cut off if they do not stand there -/
def power (cs : List Char) : List Char × List Char :=
  let digits (head : List Char) (ds : List Char) : List Char × List Char :=
    match run isDecimalDigit ds with
    | some (piece, rest) => (head ++ piece, rest)
    | none => ([], cs)
  match cs with
  | e :: '+' :: ds => if e == 'e' || e == 'E' then digits [e, '+'] ds else ([], cs)
  | e :: '-' :: ds => if e == 'e' || e == 'E' then digits [e, '-'] ds else ([], cs)
  | e :: ds => if e == 'e' || e == 'E' then digits [e] ds else ([], cs)
  | [] => ([], cs)

/-- `0x` or `0X` and hexadecimal digits -/
def hexNumber : Scanner
  | '0' :: x :: cs =>
    if x == 'x' || x == 'X' then
      (run isHexDigit cs).map fun (piece, rest) => ('0' :: x :: piece, rest)
    else none
  | _ => none

/-- decimal digits, a point with more digits or none, a power of ten or none -/
def decimalNumber : Scanner := fun cs =>
  (run isDecimalDigit cs).map fun (whole, rest) =>
    match rest with
    | '.' :: more =>
      let (exponent, rest) := power (more.dropWhile isDecimalDigit)
      (whole ++ '.' :: more.takeWhile isDecimalDigit ++ exponent, rest)
    | _ =>
      let (exponent, rest) := power rest
      (whole ++ exponent, rest)

def unsigned : Scanner := fun cs => (hexNumber cs).or (decimalNumber cs)

/-- a number, after a minus or not -/
def number : Scanner
  | '-' :: cs => (unsigned cs).map fun (piece, rest) => ('-' :: piece, rest)
  | cs => unsigned cs

/-! ### names, marks, blanks -/

/-- an identifier -/
def identifier : Scanner
  | c :: cs =>
    if isNameStart c then some (c :: cs.takeWhile isNameChar, cs.dropWhile isNameChar) else none
  | [] => none

theorem length_lt_of_identifier {cs piece rest : List Char}
    (h : identifier cs = some (piece, rest)) : rest.length < cs.length := by
  unfold identifier at h
  split at h
  · rename_i c cs
    split at h
    · simp only [Option.some.injEq, Prod.mk.injEq] at h
      rw [← h.2]
      have := (List.dropWhile_suffix (l := cs) isNameChar).length_le
      simp only [List.length_cons]
      omega
    · cases h
  · cases h

/-- as many dots with an identifier as stand there -/
def dotted (cs : List Char) : List Char × List Char :=
  match cs with
  | '.' :: more =>
    match h : identifier more with
    | some (piece, rest) =>
      have := length_lt_of_identifier h
      let (piece', rest') := dotted rest
      ('.' :: piece ++ piece', rest')
    | none => ([], cs)
  | _ => ([], cs)
termination_by cs.length
decreasing_by simp_all; omega

/-- identifiers with dots between them -/
def path : Scanner := fun cs =>
  (identifier cs).map fun (piece, rest) =>
    let (piece', rest') := dotted rest
    (piece ++ piece', rest')

/-- identifiers with dots between them, after one dot or none -/
def name : Scanner
  | '.' :: cs => (path cs).map fun (piece, rest) => ('.' :: piece, rest)
  | cs => path cs

/-- the characters that are tokens by themselves -/
def isMark (c : Char) : Bool :=
  c == '=' || c == ';' || c == '\x7b' || c == '\x7d' || c == '[' || c == ']' || c == '<' ||
    c == '>' || c == ',' || c == '(' || c == ')' || c == ':'

def mark : Scanner := single isMark

def blanks : Scanner := run isBlank

/-! ### all kinds -/

/-- a piece of a text that is kept or dropped -/
inductive Kind where
  | gap
  | token
deriving Repr, DecidableEq

/-- the kinds of lexemes in the order in which they are tried -/
def kinds : List (Kind × Scanner) :=
  [(.gap, blockComment), (.gap, lineComment), (.token, literal doubleQuote),
   (.token, literal singleQuote), (.token, number), (.token, name), (.token, mark), (.gap, blanks)]

/-- a lexeme at the front of a text -/
structure Found where
  kind : Kind
  piece : List Char
  rest : List Char
deriving Repr, DecidableEq

/-- the lexeme at the front of `cs` -/
def lexeme? (cs : List Char) : Option Found :=
  kinds.findSome? fun (kind, scan) => (scan cs).map fun (piece, rest) => ⟨kind, piece, rest⟩

/-! ### nothing is lost -/

theorem cuts_run (p : Char → Bool) : Scanner.Cuts (run p) := by
  intro cs piece rest h
  unfold run at h
  split at h
  · cases h
  · rename_i hne
    simp only [Option.some.injEq, Prod.mk.injEq] at h
    obtain ⟨rfl, rfl⟩ := h
    exact ⟨List.takeWhile_append_dropWhile, fun hnil => hne (by simp [hnil])⟩

theorem cuts_single (p : Char → Bool) : Scanner.Cuts (single p) := by
  intro cs piece rest h
  cases cs with
  | nil => cases h
  | cons c cs =>
    simp only [single] at h
    split at h
    · cases h; simp
    · cases h

theorem cuts_toCommentEnd : Scanner.Cuts toCommentEnd := by
  intro cs
  fun_induction toCommentEnd cs with
  | case1 cs => intro piece rest h; cases h; simp
  | case2 c cs _ ih =>
    intro piece rest h
    simp only [Option.map_eq_some_iff, Prod.exists, Prod.mk.injEq] at h
    obtain ⟨p, r, hp, rfl, rfl⟩ := h
    simp [ih p r hp]
  | case3 => intro piece rest h; cases h

theorem cuts_blockComment : Scanner.Cuts blockComment := by
  intro cs piece rest h
  unfold blockComment at h
  split at h
  · simp only [Option.map_eq_some_iff, Prod.exists, Prod.mk.injEq] at h
    obtain ⟨p, r, hp, rfl, rfl⟩ := h
    simp [(cuts_toCommentEnd _ p r hp).1]
  · cases h

theorem cuts_lineComment : Scanner.Cuts lineComment := by
  intro cs piece rest h
  unfold lineComment at h
  split at h
  · rename_i cs
    simp only [Option.some.injEq, Prod.mk.injEq] at h
    obtain ⟨rfl, rfl⟩ := h
    simp
  · cases h

theorem cuts_toClosing (quote : Char) : Scanner.Cuts (toClosing quote) := by
  intro cs
  fun_induction toClosing quote cs with
  | case1 => intro piece rest h; cases h
  | case2 c cs ih =>
    intro piece rest h
    simp only [Option.map_eq_some_iff, Prod.exists, Prod.mk.injEq] at h
    obtain ⟨p, r, hp, rfl, rfl⟩ := h
    simp [(ih p r hp).1]
  | case3 => intro piece rest h; cases h; simp
  | case4 => intro piece rest h; cases h
  | case5 c cs _ _ _ ih =>
    intro piece rest h
    simp only [Option.map_eq_some_iff, Prod.exists, Prod.mk.injEq] at h
    obtain ⟨p, r, hp, rfl, rfl⟩ := h
    simp [(ih p r hp).1]

theorem cuts_literal (quote : Char) : Scanner.Cuts (literal quote) := by
  intro cs piece rest h
  unfold literal at h
  split at h
  · split at h
    · simp only [Option.map_eq_some_iff, Prod.exists, Prod.mk.injEq] at h
      obtain ⟨p, r, hp, rfl, rfl⟩ := h
      simp [(cuts_toClosing quote _ p r hp).1]
    · cases h
  · cases h

theorem power_append (cs : List Char) : (power cs).1 ++ (power cs).2 = cs := by
  have key : ∀ (head ds : List Char), head ++ ds = cs →
      (match run isDecimalDigit ds with
        | some (piece, rest) => (head ++ piece, rest)
        | none => (([] : List Char), cs)).1 ++
      (match run isDecimalDigit ds with
        | some (piece, rest) => (head ++ piece, rest)
        | none => (([] : List Char), cs)).2 = cs := by
    intro head ds hcs
    split
    · rename_i piece rest hr
      simp [(cuts_run _ _ _ _ hr).1, hcs]
    · simp
  unfold power
  dsimp only
  split
  · split
    · exact key _ _ (by simp)
    · simp
  · split
    · exact key _ _ (by simp)
    · simp
  · split
    · exact key _ _ (by simp)
    · simp
  · simp

theorem cuts_hexNumber : Scanner.Cuts hexNumber := by
  intro cs piece rest h
  unfold hexNumber at h
  split at h
  · split at h
    · simp only [Option.map_eq_some_iff, Prod.exists, Prod.mk.injEq] at h
      obtain ⟨p, r, hp, rfl, rfl⟩ := h
      simp [(cuts_run _ _ p r hp).1]
    · cases h
  · cases h

theorem cuts_decimalNumber : Scanner.Cuts decimalNumber := by
  intro cs piece rest h
  unfold decimalNumber at h
  simp only [Option.map_eq_some_iff, Prod.exists] at h
  obtain ⟨whole, tail, hw, h⟩ := h
  obtain ⟨happ, hne⟩ := cuts_run _ _ _ _ hw
  split at h
  · simp only [Prod.mk.injEq] at h
    obtain ⟨rfl, rfl⟩ := h
    refine ⟨?_, by simp⟩
    rw [← happ, List.append_assoc, power_append]
    simp
  · have h2 := power_append tail
    simp only [Prod.mk.injEq] at h
    obtain ⟨rfl, rfl⟩ := h
    refine ⟨by rw [List.append_assoc, h2, happ], by simp [hne]⟩

theorem Scanner.Cuts.or {s t : Scanner} (hs : s.Cuts) (ht : t.Cuts) :
    Scanner.Cuts fun cs => (s cs).or (t cs) := by
  intro cs piece rest h
  simp only [Option.or_eq_some_iff] at h
  rcases h with h | ⟨_, h⟩
  · exact hs cs piece rest h
  · exact ht cs piece rest h

theorem cuts_unsigned : Scanner.Cuts unsigned := cuts_hexNumber.or cuts_decimalNumber

theorem cuts_number : Scanner.Cuts number := by
  intro cs piece rest h
  unfold number at h
  split at h
  · simp only [Option.map_eq_some_iff, Prod.exists, Prod.mk.injEq] at h
    obtain ⟨p, r, hp, rfl, rfl⟩ := h
    simp [(cuts_unsigned _ p r hp).1]
  · exact cuts_unsigned _ _ _ h

theorem cuts_identifier : Scanner.Cuts identifier := by
  intro cs piece rest h
  unfold identifier at h
  split at h
  · split at h
    · simp only [Option.some.injEq, Prod.mk.injEq] at h
      obtain ⟨rfl, rfl⟩ := h
      simp
    · cases h
  · cases h

theorem dotted_append (cs : List Char) : (dotted cs).1 ++ (dotted cs).2 = cs := by
  fun_induction dotted cs with
  | case1 more piece rest h _ piece' rest' heq ih =>
    rw [heq] at ih
    simp only [List.cons_append, List.append_assoc, ih, (cuts_identifier _ _ _ h).1]
  | case2 => simp
  | case3 => simp

theorem cuts_path : Scanner.Cuts path := by
  intro cs piece rest h
  unfold path at h
  simp only [Option.map_eq_some_iff, Prod.exists, Prod.mk.injEq] at h
  obtain ⟨p, r, hp, rfl, rfl⟩ := h
  obtain ⟨happ, hne⟩ := cuts_identifier _ _ _ hp
  exact ⟨by rw [List.append_assoc, dotted_append, happ], by simp [hne]⟩

theorem cuts_name : Scanner.Cuts name := by
  intro cs piece rest h
  unfold name at h
  split at h
  · simp only [Option.map_eq_some_iff, Prod.exists, Prod.mk.injEq] at h
    obtain ⟨p, r, hp, rfl, rfl⟩ := h
    simp [(cuts_path _ p r hp).1]
  · exact cuts_path _ _ _ h

theorem cuts_of_mem_kinds {kind : Kind} {scan : Scanner} (h : (kind, scan) ∈ kinds) :
    scan.Cuts := by
  simp only [kinds, List.mem_cons, Prod.mk.injEq, List.not_mem_nil, or_false] at h
  rcases h with ⟨-, rfl⟩ | ⟨-, rfl⟩ | ⟨-, rfl⟩ | ⟨-, rfl⟩ | ⟨-, rfl⟩ | ⟨-, rfl⟩ | ⟨-, rfl⟩ |
    ⟨-, rfl⟩
  · exact cuts_blockComment
  · exact cuts_lineComment
  · exact cuts_literal _
  · exact cuts_literal _
  · exact cuts_number
  · exact cuts_name
  · exact cuts_single _
  · exact cuts_run _

/-- a lexeme is a non-empty start of the text -/
theorem piece_append_rest {cs : List Char} {found : Found} (h : lexeme? cs = some found) :
    found.piece ++ found.rest = cs ∧ found.piece ≠ [] := by
  unfold lexeme? at h
  obtain ⟨⟨kind, scan⟩, hmem, h⟩ := List.exists_of_findSome?_eq_some h
  simp only [Option.map_eq_some_iff, Prod.exists] at h
  obtain ⟨p, r, hp, rfl⟩ := h
  exact cuts_of_mem_kinds hmem cs p r hp

theorem length_rest_lt {cs : List Char} {found : Found} (h : lexeme? cs = some found) :
    found.rest.length < cs.length := by
  obtain ⟨happ, hne⟩ := piece_append_rest h
  rw [← happ, List.length_append]
  have := List.length_pos_iff.mpr hne
  omega

end EnvConfig.Lexeme
