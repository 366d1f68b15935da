import EnvConfig.Proofs.Lexical.Numbers

/-!
# The longest lexeme

No two shapes of lexemes can begin one text, because the first character, or the first two where it
is a slash, already tells the shape.  So the order in which the scanners are tried makes no
difference: what stands at the front of a text is the longest start of it that is a lexeme.

* `Shape.of?`: the shape of the lexeme that a text can begin with;
* `IsLexeme`: a text that is a token, or a run of blanks or a comment;
* `Leads`: the longest lexeme at the front of a text;
* `lexeme?_eq_some_iff`, `lexeme?_eq_none_iff`: this is what is found, and where there is none
  nothing is found.
-/

namespace EnvConfig.Lexeme

open Text

/-! ### all shapes -/

inductive Shape where
  | blockComment
  | lineComment
  | doubleQuoted
  | singleQuoted
  | number
  | name
  | mark
  | blanks
deriving Repr, DecidableEq

namespace Shape

def kind : Shape → Kind
  | blockComment | lineComment | blanks => .gap
  | doubleQuoted | singleQuoted | number | name | mark => .token

/-- the text has the shape -/
def Holds : Shape → List Char → Prop
  | blockComment => IsBlockComment
  | lineComment => IsLineComment
  | doubleQuoted => IsLiteral doubleQuote
  | singleQuoted => IsLiteral singleQuote
  | number => IsNumber
  | name => (isTypeName · = true)
  | mark => IsMark
  | blanks => IsRun isBlank

def scanner : Shape → Scanner
  | blockComment => Lexeme.blockComment
  | lineComment => Lexeme.lineComment
  | doubleQuoted => literal doubleQuote
  | singleQuoted => literal singleQuote
  | number => Lexeme.number
  | name => Lexeme.name
  | mark => Lexeme.mark
  | blanks => Lexeme.blanks

def all : List Shape :=
  [blockComment, lineComment, doubleQuoted, singleQuoted, number, name, mark, blanks]

theorem mem_all (s : Shape) : s ∈ all := by cases s <;> decide

theorem kinds_eq : kinds = all.map fun s => (s.kind, s.scanner) := rfl

theorem longest (s : Shape) : s.scanner.Longest s.Holds := by
  cases s with
  | blockComment => exact longest_blockComment
  | lineComment => exact longest_lineComment
  | doubleQuoted => exact longest_literal (by decide)
  | singleQuoted => exact longest_literal (by decide)
  | number => exact longest_number
  | name => exact longest_name
  | mark => exact longest_mark
  | blanks => exact longest_blanks

theorem cuts (s : Shape) : s.scanner.Cuts :=
  cuts_of_mem_kinds (kinds_eq ▸ List.mem_map_of_mem (mem_all s))

/-! ### the beginning tells the shape -/

/-- the shape of the lexeme that a text can begin with -/
def of? : List Char → Option Shape
  | '/' :: '*' :: _ => some blockComment
  | '/' :: '/' :: _ => some lineComment
  | c :: _ =>
    if c = doubleQuote then some doubleQuoted
    else if c = singleQuote then some singleQuoted
    else if c = '-' ∨ isDecimalDigit c = true then some number
    else if c = '.' ∨ isNameStart c = true then some name
    else if isMark c then some mark
    else if isBlank c then some blanks
    else none
  | [] => none

end Shape

/-- the code points of the blanks -/
def blankCodes : List Nat :=
  [9, 10, 11, 12, 13, 32, 0x85, 0xa0, 0x1680, 0x2000, 0x2001, 0x2002, 0x2003, 0x2004, 0x2005,
    0x2006, 0x2007, 0x2008, 0x2009, 0x200a, 0x2028, 0x2029, 0x202f, 0x205f, 0x3000]

theorem mem_blankCodes {c : Char} (h : isBlank c = true) : c.toNat ∈ blankCodes := by
  simp only [isBlank, Bool.or_eq_true, Bool.and_eq_true, decide_eq_true_eq, beq_iff_eq] at h
  simp only [blankCodes, List.mem_cons, List.not_mem_nil, or_false]
  omega

theorem blank_facts {c : Char} (h : isBlank c = true) : c ≠ '/' ∧ c ≠ doubleQuote ∧
    c ≠ singleQuote ∧ c ≠ '-' ∧ isDecimalDigit c = false ∧ c ≠ '.' ∧ isNameStart c = false ∧
    isMark c = false := by
  have hall : ∀ n ∈ blankCodes, Char.ofNat n ≠ '/' ∧ Char.ofNat n ≠ doubleQuote ∧
      Char.ofNat n ≠ singleQuote ∧ Char.ofNat n ≠ '-' ∧ isDecimalDigit (Char.ofNat n) = false ∧
      Char.ofNat n ≠ '.' ∧ isNameStart (Char.ofNat n) = false ∧ isMark (Char.ofNat n) = false := by
    refine List.forall_iff_forall_mem.mp ?_
    decide +kernel
  have hfacts := hall c.toNat (mem_blankCodes h)
  rwa [Char.ofNat_toNat] at hfacts

theorem decimal_facts {c : Char} (h : isDecimalDigit c = true) : c ≠ '/' ∧ c ≠ doubleQuote ∧
    c ≠ singleQuote := by
  refine ⟨?_, ?_, ?_⟩ <;> rintro rfl <;> exact absurd h (by decide +kernel)

namespace Shape

theorem of?_cons {c : Char} (h : c ≠ '/') (cs : List Char) : of? (c :: cs) =
    if c = doubleQuote then some doubleQuoted
    else if c = singleQuote then some singleQuoted
    else if c = '-' ∨ isDecimalDigit c = true then some number
    else if c = '.' ∨ isNameStart c = true then some name
    else if isMark c then some mark
    else if isBlank c then some blanks
    else none := by
  unfold of?
  split
  · rename_i heq
    exact absurd (List.cons.inj heq).1 h
  · rename_i heq
    exact absurd (List.cons.inj heq).1 h
  · rename_i heq
    rw [(List.cons.inj heq).1]
  · rename_i heq
    cases heq

theorem of?_digit {c : Char} (h : isDecimalDigit c = true) (cs : List Char) :
    of? (c :: cs) = some number := by
  obtain ⟨hslash, hdouble, hsingle⟩ := decimal_facts h
  rw [of?_cons hslash, if_neg hdouble, if_neg hsingle, if_pos (.inr h)]

theorem of?_number {piece : List Char} (h : IsNumber piece) (rest : List Char) :
    of? (piece ++ rest) = some number := by
  rcases h with h | ⟨magnitude, rfl, -⟩
  · obtain ⟨c, cs, rfl, hc⟩ := exists_digit_of_isUnsigned h
    exact of?_digit hc _
  · rfl

theorem of?_nameStart {c : Char} (h : isNameStart c = true) (cs : List Char) :
    of? (c :: cs) = some name := by
  obtain ⟨hslash, hdouble, hsingle, hminus, -, hdigit, -⟩ := nameStart_facts h
  have hdouble : c ≠ doubleQuote := hdouble
  rw [of?_cons hslash, if_neg hdouble, if_neg hsingle, if_neg (by simp [hminus, hdigit]),
    if_pos (.inr h)]

theorem of?_name {piece : List Char} (h : isTypeName piece = true) (rest : List Char) :
    of? (piece ++ rest) = some name := by
  cases piece with
  | nil => cases h
  | cons c cs =>
    rcases head_of_isTypeName h with rfl | hc
    · rw [List.cons_append, of?_cons (by decide)]
      decide +kernel
    · exact of?_nameStart hc _

theorem of?_mark {c : Char} (h : isMark c = true) (cs : List Char) :
    of? (c :: cs) = some mark := by
  obtain ⟨hslash, hdouble, hsingle, hminus, hdot, hdigit, hstart, -⟩ :=
    mark_facts c (mem_marks.mp h)
  have hdouble : c ≠ doubleQuote := hdouble
  rw [of?_cons hslash, if_neg hdouble, if_neg hsingle, if_neg (by simp [hminus, hdigit]),
    if_neg (by simp [hdot, hstart]), if_pos h]

theorem of?_blank {c : Char} (h : isBlank c = true) (cs : List Char) :
    of? (c :: cs) = some blanks := by
  obtain ⟨hslash, hdouble, hsingle, hminus, hdigit, hdot, hstart, hmark⟩ := blank_facts h
  rw [of?_cons hslash, if_neg hdouble, if_neg hsingle, if_neg (by simp [hminus, hdigit]),
    if_neg (by simp [hdot, hstart]), if_neg (by simp [hmark]), if_pos h]

/-- the beginning of a text tells the shape of every lexeme that the text can begin with -/
theorem of?_of_holds {s : Shape} {piece : List Char} (h : s.Holds piece) (rest : List Char) :
    of? (piece ++ rest) = some s := by
  cases s with
  | blockComment =>
    obtain ⟨body, rfl, -⟩ := h
    rfl
  | lineComment =>
    obtain ⟨body, rfl, -⟩ := h
    rfl
  | doubleQuoted =>
    obtain ⟨body, rfl, -⟩ := h
    rfl
  | singleQuoted =>
    obtain ⟨body, rfl, -⟩ := h
    rfl
  | number => exact of?_number h rest
  | name => exact of?_name h rest
  | mark =>
    obtain ⟨c, rfl, hc⟩ := h
    exact of?_mark hc rest
  | blanks =>
    obtain ⟨c, cs, rfl⟩ := List.exists_cons_of_ne_nil h.1
    exact of?_blank (h.2 c List.mem_cons_self) _

theorem of?_of_scanner {s : Shape} {cs piece rest : List Char}
    (h : s.scanner cs = some (piece, rest)) : of? cs = some s := by
  rw [← (s.cuts cs piece rest h).1]
  exact of?_of_holds (s.longest.sound h) rest

end Shape

/-- a list is searched for the one element that can be found -/
theorem findSome?_eq_of_unique {α β : Type} {f : α → Option β} {a : α} {as : List α} (ha : a ∈ as)
    (h : ∀ b, f b ≠ none → b = a) : as.findSome? f = f a := by
  cases hfound : as.findSome? f with
  | none => exact (List.findSome?_eq_none_iff.mp hfound a ha).symm
  | some x =>
    obtain ⟨b, -, hb⟩ := List.exists_of_findSome?_eq_some hfound
    rw [← h b (by rw [hb]; exact Option.some_ne_none x), hb]

/-- only the scanner of the shape that the beginning tells is of any use -/
theorem lexeme?_eq_bind (cs : List Char) :
    lexeme? cs = (Shape.of? cs).bind fun s =>
      (s.scanner cs).map fun (piece, rest) => ⟨s.kind, piece, rest⟩ := by
  have huseful : ∀ s : Shape,
      (s.scanner cs).map (fun (piece, rest) => (⟨s.kind, piece, rest⟩ : Found)) ≠ none →
        Shape.of? cs = some s := by
    intro s hs
    obtain ⟨⟨piece, rest⟩, hfound⟩ :=
      Option.ne_none_iff_exists'.mp (mt Option.map_eq_none_iff.mpr hs)
    exact Shape.of?_of_scanner hfound
  unfold lexeme?
  rw [Shape.kinds_eq, List.findSome?_map]
  cases hof : Shape.of? cs with
  | none =>
    rw [Option.bind_none, List.findSome?_eq_none_iff]
    intro s _
    by_contra hs
    rw [huseful s hs] at hof
    cases hof
  | some s =>
    refine findSome?_eq_of_unique (Shape.mem_all s) fun s' hs' => ?_
    have hof' := huseful s' hs'
    rw [hof] at hof'
    exact (Option.some.inj hof').symm

theorem lexeme?_of_scanner {s : Shape} {cs piece rest : List Char}
    (h : s.scanner cs = some (piece, rest)) : lexeme? cs = some ⟨s.kind, piece, rest⟩ := by
  rw [lexeme?_eq_bind, Shape.of?_of_scanner h, Option.bind_some, h]
  rfl

/-! ### what is found -/

/-- the text is a lexeme of this kind -/
def IsLexeme (kind : Kind) (piece : List Char) : Prop := ∃ s : Shape, s.kind = kind ∧ s.Holds piece

/-- `piece` is the longest start of the text `cs` that is a lexeme, and it is of this kind -/
structure Leads (kind : Kind) (piece cs : List Char) : Prop where
  isLexeme : IsLexeme kind piece
  isPrefix : piece <+: cs
  longest : ∀ {kind' other}, IsLexeme kind' other → other <+: cs → other <+: piece

theorem lexeme?_eq_some_iff {cs piece rest : List Char} {kind : Kind} :
    lexeme? cs = some ⟨kind, piece, rest⟩ ↔ piece ++ rest = cs ∧ Leads kind piece cs := by
  rw [lexeme?_eq_bind]
  constructor
  · intro h
    obtain ⟨s, hof, h⟩ := Option.bind_eq_some_iff.mp h
    obtain ⟨⟨piece, rest⟩, hscan, h⟩ := Option.map_eq_some_iff.mp h
    cases h
    have hcut := (s.cuts cs piece rest hscan).1
    refine ⟨hcut, ⟨s, rfl, s.longest.sound hscan⟩, hcut ▸ List.prefix_append piece rest, ?_⟩
    rintro kind' other ⟨s', -, hother⟩ ⟨tail, rfl⟩
    rw [Shape.of?_of_holds hother tail, Option.some.injEq] at hof
    subst hof
    obtain ⟨more, rest', hreach⟩ := s'.longest.reaches tail hother
    rw [hscan, Option.some.injEq, Prod.mk.injEq] at hreach
    exact hreach.1 ▸ List.prefix_append other more
  · rintro ⟨rfl, ⟨s, rfl, hpiece⟩, -, hlongest⟩
    obtain ⟨more, rest', hreach⟩ := s.longest.reaches rest hpiece
    have hcut := (s.cuts _ _ _ hreach).1
    have hmore : more = [] := by
      have hprefix := hlongest ⟨s, rfl, s.longest.sound hreach⟩ (hcut ▸ List.prefix_append _ rest')
      have hlength := hprefix.length_le
      rw [List.length_append] at hlength
      exact List.eq_nil_of_length_eq_zero (by omega)
    rw [hmore, List.append_nil] at hreach hcut
    rw [← lexeme?_eq_bind, lexeme?_of_scanner hreach, List.append_cancel_left hcut]

theorem lexeme?_eq_none_iff {cs : List Char} :
    lexeme? cs = none ↔ ∀ kind piece, IsLexeme kind piece → ¬ piece <+: cs := by
  constructor
  · rintro hnone kind piece ⟨s, rfl, hpiece⟩ ⟨rest, rfl⟩
    obtain ⟨more, rest', hreach⟩ := s.longest.reaches rest hpiece
    rw [lexeme?_of_scanner hreach] at hnone
    cases hnone
  · intro h
    cases hfound : lexeme? cs with
    | none => rfl
    | some found =>
      obtain ⟨kind, piece, rest⟩ := found
      have hleads := (lexeme?_eq_some_iff.mp hfound).2
      exact absurd hleads.isPrefix (h kind piece hleads.isLexeme)

end EnvConfig.Lexeme
