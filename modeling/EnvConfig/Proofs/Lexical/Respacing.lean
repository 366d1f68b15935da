import EnvConfig.Proofs.Lexical.Lossless
import EnvConfig.Proofs.Printing.Phrases

/-!
# Other spacing between the same tokens

What stands between tokens can be put anew: blanks, comments in slashes and stars, and comments up
to the end of a line with the line feed that ends them.  A token that is followed by any of it is
found again as it was, and what is put there is dropped.

* `Words`: the tokens of a text, as texts;
* `Spacing`: what can stand between tokens;
* `Spaced`: tokens with spacing between them;
* `words_spacing`, `lexeme?_token`: spacing is dropped, and a token in front of it is found;
* `Tokens.scan_respaced`: the tokens of a text with other spacing.
-/

namespace EnvConfig

open Lexeme Text

/-! ### the tokens of a text -/

/-- the lexemes that are kept -/
def tokenPieces (parts : List (Kind × List Char)) : List (List Char) :=
  (parts.filter (·.1 = .token)).map (·.2)

/-- the text `cs` can be scanned, and its tokens have the texts `ws` -/
def Words (cs : List Char) (ws : List (List Char)) : Prop :=
  ∃ parts, Cut cs parts [] ∧ tokenPieces parts = ws

theorem words_nil : Words [] [] := ⟨[], .nil [], rfl⟩

theorem Cut.tail {cs piece more : List Char} {kind : Kind} {parts : List (Kind × List Char)}
    (h : Cut cs parts []) (hfound : lexeme? cs = some ⟨kind, piece, more⟩) :
    ∃ parts', parts = (kind, piece) :: parts' ∧ Cut more parts' [] := by
  cases h with
  | nil => cases hfound
  | @cons kind' piece' cs' _ parts' hfirst hmore =>
    have hfound' := lexeme?_eq_some_iff.mpr ⟨rfl, hfirst⟩
    rw [hfound, Option.some.injEq, Found.mk.injEq] at hfound'
    obtain ⟨rfl, rfl, rfl⟩ := hfound'
    exact ⟨parts', rfl, hmore⟩

section

variable {cs piece rest : List Char} {ws : List (List Char)}

theorem words_of_gap (h : lexeme? cs = some ⟨.gap, piece, rest⟩) : Words cs ws ↔ Words rest ws := by
  constructor
  · rintro ⟨parts, hcut, rfl⟩
    obtain ⟨parts, rfl, hmore⟩ := hcut.tail h
    exact ⟨parts, hmore, rfl⟩
  · rintro ⟨parts, hcut, rfl⟩
    obtain ⟨rfl, hleads⟩ := lexeme?_eq_some_iff.mp h
    exact ⟨_, .cons hleads hcut, rfl⟩

theorem words_of_token (h : lexeme? cs = some ⟨.token, piece, rest⟩) (hrest : Words rest ws) :
    Words cs (piece :: ws) := by
  obtain ⟨parts, hcut, rfl⟩ := hrest
  obtain ⟨rfl, hleads⟩ := lexeme?_eq_some_iff.mp h
  exact ⟨_, .cons hleads hcut, rfl⟩

end

/-! ### spacing -/

/-- blanks, comments in slashes and stars, and comments up to a line feed, any of them in any
order -/
inductive Spacing : List Char → Prop
  | nil : Spacing []
  | blank {c : Char} {g : List Char} (hc : isBlank c = true) (h : Spacing g) : Spacing (c :: g)
  | block {piece g : List Char} (hpiece : IsBlockComment piece) (h : Spacing g) :
      Spacing (piece ++ g)
  | line {piece g : List Char} (hpiece : IsLineComment piece) (h : Spacing g) :
      Spacing (piece ++ '\n' :: g)

/-- tokens with spacing behind each, which may be nothing behind the last one only -/
inductive Spaced : List (List Char) → List Char → Prop
  | nil : Spaced [] []
  | last {w g : List Char} (h : Spacing g) : Spaced [w] (w ++ g)
  | cons {w v g rest : List Char} {ws : List (List Char)} (hgap : Spacing g) (hne : g ≠ [])
      (h : Spaced (v :: ws) rest) : Spaced (w :: v :: ws) (w ++ (g ++ rest))

theorem lexeme?_blank {c : Char} (h : isBlank c = true) (cs : List Char) :
    lexeme? (c :: cs) = some ⟨.gap, c :: cs.takeWhile isBlank, cs.dropWhile isBlank⟩ := by
  have hone : IsRun isBlank [c] := ⟨List.cons_ne_nil c [], by simpa using h⟩
  have hscan : Shape.blanks.scanner (c :: cs) =
      some (c :: cs.takeWhile isBlank, cs.dropWhile isBlank) := run_reaches hone cs
  exact lexeme?_of_scanner hscan

theorem lexeme?_blockComment {piece : List Char} (h : IsBlockComment piece) (cs : List Char) :
    lexeme? (piece ++ cs) = some ⟨.gap, piece, cs⟩ := by
  have hscan : Shape.blockComment.scanner (piece ++ cs) = some (piece, cs) :=
    blockComment_append h cs
  exact lexeme?_of_scanner hscan

theorem lexeme?_lineComment {piece : List Char} (h : IsLineComment piece) (cs : List Char) :
    lexeme? (piece ++ '\n' :: cs) = some ⟨.gap, piece, '\n' :: cs⟩ := by
  have hscan : Shape.lineComment.scanner (piece ++ '\n' :: cs) = some (piece, '\n' :: cs) := by
    show lineComment (piece ++ '\n' :: cs) = _
    rw [lineComment_reaches h, List.takeWhile_cons_of_neg (by simp),
      List.dropWhile_cons_of_neg (by simp), List.append_nil]
  exact lexeme?_of_scanner hscan

/-- a blank in front of a text is dropped, whether or not other blanks follow -/
theorem words_blank {c : Char} (h : isBlank c = true) {cs : List Char} {ws : List (List Char)} :
    Words (c :: cs) ws ↔ Words cs ws := by
  rw [words_of_gap (lexeme?_blank h cs)]
  cases cs with
  | nil => rfl
  | cons d cs =>
    by_cases hd : isBlank d = true
    · rw [words_of_gap (lexeme?_blank hd cs), List.dropWhile_cons_of_pos hd]
    · rw [List.dropWhile_cons_of_neg hd]

theorem words_spacing {g : List Char} (h : Spacing g) (cs : List Char) (ws : List (List Char)) :
    Words (g ++ cs) ws ↔ Words cs ws := by
  induction h with
  | nil => rfl
  | blank hc _ ih => rw [List.cons_append, words_blank hc, ih]
  | block hpiece _ ih => rw [List.append_assoc, words_of_gap (lexeme?_blockComment hpiece _), ih]
  | line hpiece _ ih =>
    rw [List.append_assoc, List.cons_append, words_of_gap (lexeme?_lineComment hpiece _),
      words_blank (by decide), ih]

/-! ### tokens in front of spacing -/

/-- a character that spacing can begin with -/
def Breaks (c : Char) : Prop := isBlank c = true ∨ c = '/'

theorem Spacing.breaks {g : List Char} (h : Spacing g) (hne : g ≠ []) (cs : List Char) :
    ∀ c ∈ (g ++ cs).head?, Breaks c := by
  cases h with
  | nil => exact absurd rfl hne
  | blank hc _ =>
    rintro _ ⟨⟩
    exact .inl hc
  | block hpiece _ =>
    obtain ⟨body, rfl, -⟩ := hpiece
    rintro _ ⟨⟩
    exact .inr rfl
  | line hpiece _ =>
    obtain ⟨body, rfl, -⟩ := hpiece
    rintro _ ⟨⟩
    exact .inr rfl

theorem break_facts {c : Char} (h : Breaks c) : isDecimalDigit c = false ∧ isHexDigit c = false ∧
    isNameChar c = false ∧ isMark c = false ∧ c ∉ ['.', 'e', 'E', '+', '-', 'x', 'X'] := by
  have hall : ∀ n ∈ 47 :: blankCodes, isDecimalDigit (Char.ofNat n) = false ∧
      isHexDigit (Char.ofNat n) = false ∧ isNameChar (Char.ofNat n) = false ∧
      isMark (Char.ofNat n) = false ∧
      Char.ofNat n ∉ ['.', 'e', 'E', '+', '-', 'x', 'X'] := by
    refine List.forall_iff_forall_mem.mp ?_
    decide +kernel
  have hmem : c.toNat ∈ 47 :: blankCodes := by
    rcases h with h | rfl
    · exact List.mem_cons_of_mem _ (mem_blankCodes h)
    · exact List.mem_cons_self
  have hfacts := hall c.toNat hmem
  rwa [Char.ofNat_toNat] at hfacts

theorem not_breaks_of_mem_number {piece : List Char} (h : IsNumber piece) :
    ∀ c ∈ piece, ¬ Breaks c := by
  have hunsigned : ∀ magnitude, IsUnsigned magnitude → ∀ c ∈ magnitude, ¬ Breaks c := by
    rintro magnitude hmagnitude c hc hbreaks
    obtain ⟨hdecimal, hhex, -, -, hother⟩ := break_facts hbreaks
    rcases hmagnitude with ⟨x, ds, rfl, hx, hds⟩ | hmagnitude
    · rcases List.mem_cons.mp hc with rfl | hc
      · exact absurd hhex (by decide)
      · rcases List.mem_cons.mp hc with rfl | hc
        · rcases hx with rfl | rfl <;> exact hother (by decide)
        · rw [hds.2 c hc] at hhex
          cases hhex
    · rcases mem_decimalNumber hmagnitude c hc with hdigit | hmem
      · rw [hdigit] at hdecimal
        cases hdecimal
      · exact hother (List.mem_append_left ['x', 'X'] hmem)
  rcases h with h | ⟨magnitude, rfl, h⟩
  · exact hunsigned piece h
  · refine List.forall_mem_cons.mpr ⟨?_, hunsigned magnitude h⟩
    exact fun hbreaks => (break_facts hbreaks).2.2.2.2 (by decide)

theorem not_breaks_of_mem_name {piece : List Char} (h : isTypeName piece = true) :
    ∀ c ∈ piece, ¬ Breaks c := by
  intro c hc hbreaks
  obtain ⟨-, -, hname, -, hother⟩ := break_facts hbreaks
  rcases Grammar.isNameChar_of_mem h hc with rfl | hchar
  · exact hother (by decide)
  · rw [hchar] at hname
    cases hname

theorem not_breaks_of_mem_mark {piece : List Char} (h : IsMark piece) :
    ∀ c ∈ piece, ¬ Breaks c := by
  obtain ⟨d, rfl, hd⟩ := h
  rw [List.forall_mem_singleton]
  intro hbreaks
  rw [(break_facts hbreaks).2.2.2.1] at hd
  cases hd

/-- a shape without breaking characters ends where one stands -/
theorem scanner_of_not_breaks {s : Shape} (hsolid : ∀ p, s.Holds p → ∀ c ∈ p, ¬ Breaks c)
    {piece rest : List Char} (hpiece : s.Holds piece) (hrest : ∀ c ∈ rest.head?, Breaks c) :
    s.scanner (piece ++ rest) = some (piece, rest) := by
  obtain ⟨more, rest', hreach⟩ := s.longest.reaches rest hpiece
  have hcut := (s.cuts _ _ _ hreach).1
  rw [List.append_assoc, List.append_cancel_left_eq] at hcut
  cases more with
  | nil => rw [hreach, List.append_nil, ← hcut, List.nil_append]
  | cons c more =>
    have hbreaks : Breaks c := hrest c (by rw [← hcut]; rfl)
    exact absurd hbreaks (hsolid _ (s.longest.sound hreach) c (by simp))

/-- a token in front of spacing is found as it was: a literal ends at its quote, and of the other
tokens none holds a character that spacing begins with -/
theorem lexeme?_token {piece rest : List Char} (h : IsLexeme .token piece)
    (hrest : ∀ c ∈ rest.head?, Breaks c) :
    lexeme? (piece ++ rest) = some ⟨.token, piece, rest⟩ := by
  obtain ⟨s, hs, hpiece⟩ := h
  have hscan : s.scanner (piece ++ rest) = some (piece, rest) := by
    cases s with
    | blockComment => cases hs
    | lineComment => cases hs
    | doubleQuoted => exact literal_append (by decide) hpiece rest
    | singleQuoted => exact literal_append (by decide) hpiece rest
    | number =>
      refine scanner_of_not_breaks ?_ hpiece hrest
      exact fun _ => not_breaks_of_mem_number
    | name =>
      refine scanner_of_not_breaks ?_ hpiece hrest
      exact fun _ => not_breaks_of_mem_name
    | mark =>
      refine scanner_of_not_breaks ?_ hpiece hrest
      exact fun _ => not_breaks_of_mem_mark
    | blanks => cases hs
  rw [lexeme?_of_scanner hscan, hs]

/-- tokens with other spacing are scanned as these tokens -/
theorem words_spaced {ws : List (List Char)} {cs : List Char} (h : Spaced ws cs)
    (hws : ∀ w ∈ ws, IsLexeme .token w) : Words cs ws := by
  induction h with
  | nil => exact words_nil
  | @last w g hgap =>
    have hstop : ∀ c ∈ g.head?, Breaks c := by
      by_cases hg : g = []
      · rw [hg]
        exact fun c hc => nomatch hc
      · simpa using hgap.breaks hg []
    have hend := (words_spacing hgap [] []).mpr words_nil
    rw [List.append_nil] at hend
    exact words_of_token (lexeme?_token (hws w List.mem_cons_self) hstop) hend
  | @cons w v g rest ws hgap hne _ ih =>
    have hmore := ih fun u hu => hws u (List.mem_cons_of_mem _ hu)
    exact words_of_token (lexeme?_token (hws w List.mem_cons_self) (hgap.breaks hne rest))
      ((words_spacing hgap rest _).mpr hmore)

/-! ### whole texts -/

theorem map_text_tokensAfter (before : List Char) (parts : List (Kind × List Char)) :
    (tokensAfter before parts).map (·.text) = (tokenPieces parts).map String.ofList := by
  induction parts generalizing before with
  | nil => rfl
  | cons part parts ih =>
    obtain ⟨kind, piece⟩ := part
    cases kind with
    | gap => exact ih (before ++ piece)
    | token => exact congrArg (String.ofList piece :: ·) (ih (before ++ piece))

theorem Cut.isLexeme {cs rest : List Char} {parts : List (Kind × List Char)}
    (h : Cut cs parts rest) : ∀ w ∈ tokenPieces parts, IsLexeme .token w := by
  induction h with
  | nil => exact List.forall_mem_nil _
  | @cons kind piece _ _ _ hfirst _ ih =>
    cases kind with
    | gap => exact ih
    | token => exact List.forall_mem_cons.mpr ⟨hfirst.isLexeme, ih⟩

/-- The tokens of a text, put down with other spacing, are scanned as the same tokens. -/
theorem Tokens.scan_respaced {text other : String} {ts : Tokens} (h : scan text = .ok ts)
    {first rest : List Char} (hfirst : Spacing first)
    (hrest : Spaced (ts.list.map (·.text.toList)) rest) (hother : other.toList = first ++ rest) :
    ∃ us, scan other = .ok us ∧ us.list.map (·.text) = ts.list.map (·.text) := by
  obtain ⟨parts, hcut, rfl⟩ := scan_eq_ok_iff.mp h
  have htexts : (tokensAfter [] parts).map (·.text.toList) = tokenPieces parts := by
    have hmap : (tokensAfter [] parts).map (·.text.toList) =
        ((tokensAfter [] parts).map (·.text)).map String.toList := by
      rw [List.map_map]
      rfl
    rw [hmap, map_text_tokensAfter, List.map_map]
    simp
  rw [htexts] at hrest
  obtain ⟨parts', hcut', hpieces⟩ :=
    (words_spacing hfirst rest _).mpr (words_spaced hrest hcut.isLexeme)
  rw [← hother] at hcut'
  exact ⟨_, scan_of_cut hcut', by rw [map_text_tokensAfter, map_text_tokensAfter, hpieces]⟩

end EnvConfig
