import EnvConfig.Proofs.Lexical.Longest
import Mathlib.Data.List.DropRight

/-!
# Nothing is lost in scanning

A text that can be scanned is cut into lexemes from front to back; they make up the text again, and
the tokens are those of them that are kept, each at the position of its first character.  A text
that cannot be scanned is cut as far as lexemes follow one another, and what is at fault reaches
from there to the next character at which a lexeme starts.

* `Position.past`: the position after a text, in line feeds and bytes;
* `Cut`: a text that begins with lexemes, each the longest where it stands;
* `Cut.head?_of_lineComment`: the comments among them that reach to the end of a line;
* `tokensAfter`: the tokens among lexemes;
* `Tokens.scanFrom_of_cut`: the scanner goes on behind lexemes with their tokens found;
* `Tokens.scan_exact`: what is scanned, and what is reported where nothing is.
-/

namespace EnvConfig

open Lexeme

/-! ### positions -/

/-- the position of what comes after the text `before`: its line is one more than the line feeds in
`before`, its column one more than the bytes after the last of them -/
def Position.past (before : List Char) : Position :=
  ⟨before.count '\n' + 1, (String.ofList (before.rtakeWhile (· != '\n'))).utf8ByteSize + 1⟩

theorem Position.past_concat (before : List Char) (c : Char) :
    past (before ++ [c]) = (past before).after c := by
  unfold past after
  by_cases hc : c = '\n'
  · subst hc
    rw [if_pos rfl, List.rtakeWhile_concat_neg _ _ _ (by simp)]
    simp
  · rw [if_neg hc, List.rtakeWhile_concat_pos _ _ _ (by simpa using hc), List.count_append,
      List.count_singleton, if_neg (by simpa using hc), String.ofList_append,
      String.utf8ByteSize_append, ← String.singleton_eq_ofList, String.utf8ByteSize_singleton]
    simp
    omega

/-- positions that are counted step by step are those that are counted at once -/
theorem Position.afterAll_past (before piece : List Char) :
    (past before).afterAll piece = past (before ++ piece) := by
  induction piece generalizing before with
  | nil => rw [afterAll_nil, List.append_nil]
  | cons c piece ih =>
    rw [afterAll_cons, ← past_concat, ih, List.append_assoc, List.singleton_append]

theorem Position.past_nil : past [] = start := rfl

/-! ### texts that are cut into lexemes -/

/-- the text that lexemes make up -/
def textOf (parts : List (Kind × List Char)) : List Char := parts.flatMap (·.2)

/-- The text `cs` begins with the lexemes `parts`, each the longest where it stands, and `rest` is
what comes after them. -/
inductive Cut : List Char → List (Kind × List Char) → List Char → Prop
  | nil (rest : List Char) : Cut rest [] rest
  | cons {kind : Kind} {piece cs rest : List Char} {parts : List (Kind × List Char)}
      (hfirst : Leads kind piece (piece ++ cs)) (hmore : Cut cs parts rest) :
      Cut (piece ++ cs) ((kind, piece) :: parts) rest

theorem Cut.text {cs rest : List Char} {parts : List (Kind × List Char)} (h : Cut cs parts rest) :
    cs = textOf parts ++ rest := by
  induction h with
  | nil => rfl
  | cons _ _ ih => rw [ih, textOf, textOf, List.flatMap_cons, List.append_assoc]

/-- every text can be cut up to where no lexeme starts -/
theorem exists_cut (cs : List Char) : ∃ parts rest, Cut cs parts rest ∧ lexeme? rest = none := by
  cases hfound : lexeme? cs with
  | none => exact ⟨[], cs, .nil cs, hfound⟩
  | some found =>
    have hless := length_rest_lt hfound
    obtain ⟨kind, piece, more⟩ := found
    obtain ⟨hcut, hleads⟩ := lexeme?_eq_some_iff.mp hfound
    obtain ⟨parts, rest, hmore, hnone⟩ := exists_cut more
    subst hcut
    exact ⟨(kind, piece) :: parts, rest, .cons hleads hmore, hnone⟩
termination_by cs.length

/-- A comment up to the end of the line that is the longest lexeme reaches the end of its line. -/
theorem Lexeme.Leads.head?_of_lineComment {kind : Kind} {piece rest : List Char}
    (h : Leads kind piece (piece ++ rest)) (hline : IsLineComment piece) :
    ∀ c ∈ rest.head?, c = '\n' := by
  intro c hc
  obtain ⟨more, rfl⟩ := List.head?_eq_some_iff.mp hc
  by_contra hne
  obtain ⟨body, rfl, hbody⟩ := hline
  have hlonger : IsLineComment ('/' :: '/' :: (body ++ [c])) :=
    ⟨body ++ [c], rfl, by simp [hbody, Ne.symm hne]⟩
  have hprefix := h.longest ⟨.lineComment, rfl, hlonger⟩ ⟨more, by simp⟩
  have hlength := hprefix.length_le
  simp only [List.length_cons, List.length_append, List.length_nil] at hlength
  omega

/-- a comment up to the end of the line, among lexemes that follow one another, is complete: after
it comes a line feed, or nothing -/
theorem Cut.head?_of_lineComment {cs rest : List Char} {parts : List (Kind × List Char)}
    (h : Cut cs parts rest) {front back : List (Kind × List Char)} {kind : Kind}
    {piece : List Char} (hparts : parts = front ++ (kind, piece) :: back)
    (hline : IsLineComment piece) : ∀ c ∈ (textOf back ++ rest).head?, c = '\n' := by
  induction h generalizing front with
  | nil =>
    cases front with
    | nil => cases hparts
    | cons part front => cases hparts
  | cons hfirst hmore ih =>
    cases front with
    | nil =>
      cases hparts
      rw [← hmore.text]
      exact hfirst.head?_of_lineComment hline
    | cons part front => exact ih (List.cons.inj hparts).2

/-! ### tokens -/

/-- the tokens among lexemes that come after the text `before` -/
def tokensAfter (before : List Char) : List (Kind × List Char) → List Token
  | [] => []
  | (.gap, piece) :: parts => tokensAfter (before ++ piece) parts
  | (.token, piece) :: parts =>
    ⟨String.ofList piece, .past before⟩ :: tokensAfter (before ++ piece) parts

theorem Lexeme.IsLexeme.ne_nil {kind : Kind} {piece : List Char} (h : IsLexeme kind piece) :
    piece ≠ [] := by
  rintro rfl
  obtain ⟨s, -, hs⟩ := h
  have hof := Shape.of?_of_holds hs []
  cases hof

theorem isLexeme_of_mem_tokensAfter {cs rest : List Char} {parts : List (Kind × List Char)}
    (h : Cut cs parts rest) (before : List Char) :
    ∀ t ∈ tokensAfter before parts, IsLexeme .token t.text.toList := by
  induction h generalizing before with
  | nil => exact List.forall_mem_nil _
  | @cons kind piece _ _ _ hfirst _ ih =>
    cases kind with
    | gap => exact ih (before ++ piece)
    | token =>
      refine List.forall_mem_cons.mpr ⟨?_, ih (before ++ piece)⟩
      rw [String.toList_ofList]
      exact hfirst.isLexeme

theorem text_ne_of_mem_tokensAfter {cs rest : List Char} {parts : List (Kind × List Char)}
    (h : Cut cs parts rest) (before : List Char) : ∀ t ∈ tokensAfter before parts, t.text ≠ "" := by
  intro t ht hnil
  exact (isLexeme_of_mem_tokensAfter h before t ht).ne_nil (by rw [hnil]; rfl)

namespace Tokens

/-- behind lexemes the scanner goes on, and their tokens come first in what it finds -/
theorem scanFrom_of_cut {cs rest : List Char} {parts : List (Kind × List Char)}
    (h : Cut cs parts rest) (before : List Char) :
    scanFrom (.past before) cs =
      (scanFrom (.past (before ++ textOf parts)) rest).map fun ts =>
        ⟨tokensAfter before parts ++ ts.list, ts.finish⟩ := by
  induction h generalizing before with
  | nil rest =>
    rw [textOf, List.flatMap_nil, List.append_nil]
    cases scanFrom (.past before) rest <;> rfl
  | @cons kind piece cs rest parts hfirst hmore ih =>
    have htext : before ++ textOf ((kind, piece) :: parts) = before ++ piece ++ textOf parts := by
      rw [textOf, List.flatMap_cons, List.append_assoc]
      rfl
    have hfound := lexeme?_eq_some_iff.mpr ⟨rfl, hfirst⟩
    rw [htext]
    cases kind with
    | gap =>
      rw [scanFrom_of_gap hfound, Position.afterAll_past, ih]
      rfl
    | token =>
      rw [scanFrom_of_token hfound, Position.afterAll_past, ih]
      cases scanFrom (.past (before ++ piece ++ textOf parts)) rest <;> rfl

end Tokens

/-! ### what is at fault -/

/-- a token, a run of blanks or a comment starts the text -/
def LexemeStarts (cs : List Char) : Prop := ∃ kind piece, IsLexeme kind piece ∧ piece <+: cs

theorem isSome_lexeme?_iff {cs : List Char} : (lexeme? cs).isSome = true ↔ LexemeStarts cs := by
  rw [← not_iff_not, Option.not_isSome_iff_eq_none, lexeme?_eq_none_iff, LexemeStarts]
  simp only [not_exists, not_and]

/-- the part at fault reaches to the next lexeme, and none starts inside it -/
theorem strayPart_reaches {cs : List Char} (h : lexeme? cs = none) :
    ∃ rest, cs = strayPart cs ++ rest ∧ (rest = [] ∨ LexemeStarts rest) ∧
      ∀ front back, strayPart cs = front ++ back → back ≠ [] → ¬ LexemeStarts (back ++ rest) := by
  induction cs with
  | nil =>
    refine ⟨[], rfl, .inl rfl, fun front back hparts hne => absurd ?_ hne⟩
    exact (List.append_eq_nil_iff.mp hparts.symm).2
  | cons c cs ih =>
    have hnone : ¬ LexemeStarts (c :: cs) := by
      rw [← isSome_lexeme?_iff, h]
      exact Bool.false_ne_true
    by_cases hstarts : (lexeme? cs).isSome = true
    · have hstray : strayPart (c :: cs) = [c] := by rw [strayPart, if_pos hstarts]
      rw [hstray]
      refine ⟨cs, rfl, .inr (isSome_lexeme?_iff.mp hstarts), fun front back hparts hne => ?_⟩
      have hback : back = [c] := by
        cases front with
        | nil => exact hparts.symm
        | cons d front =>
          have hnil := (List.cons.inj hparts).2
          exact absurd (List.append_eq_nil_iff.mp hnil.symm).2 hne
      rw [hback]
      exact hnone
    · have hstray : strayPart (c :: cs) = c :: strayPart cs := by rw [strayPart, if_neg hstarts]
      obtain ⟨rest, hcs, hrest, hinside⟩ := ih (Option.not_isSome_iff_eq_none.mp hstarts)
      rw [hstray]
      refine ⟨rest, by rw [List.cons_append, ← hcs], hrest, fun front back hparts hne => ?_⟩
      cases front with
      | nil =>
        have hback : back ++ rest = c :: cs := by
          rw [show back = c :: strayPart cs from hparts.symm, List.cons_append, ← hcs]
        rw [hback]
        exact hnone
      | cons d front => exact hinside front back (List.cons.inj hparts).2 hne

/-! ### whole texts -/

namespace Tokens

variable {text : String} {parts : List (Kind × List Char)} {rest : List Char} {ts : Tokens}

theorem scan_of_cut (h : Cut text.toList parts []) :
    scan text = .ok ⟨tokensAfter [] parts, .past text.toList⟩ := by
  have htext : textOf parts = text.toList := by rw [h.text, List.append_nil]
  rw [scan, ← Position.past_nil, scanFrom_of_cut h [], List.nil_append, scanFrom_nil, htext]
  simp [Except.map]

theorem scan_of_stray (h : Cut text.toList parts rest) (hnone : lexeme? rest = none)
    (hne : rest ≠ []) :
    scan text = .error ⟨.stray (String.ofList (strayPart rest)), .past (textOf parts)⟩ := by
  rw [scan, ← Position.past_nil, scanFrom_of_cut h [], List.nil_append,
    scanFrom_of_none hnone hne]
  rfl

theorem scan_eq_ok_iff :
    scan text = .ok ts ↔
      ∃ parts, Cut text.toList parts [] ∧ ts = ⟨tokensAfter [] parts, .past text.toList⟩ := by
  constructor
  · intro h
    obtain ⟨parts, rest, hcut, hnone⟩ := exists_cut text.toList
    by_cases hrest : rest = []
    · subst hrest
      rw [scan_of_cut hcut] at h
      cases h
      exact ⟨parts, hcut, rfl⟩
    · rw [scan_of_stray hcut hnone hrest] at h
      cases h
  · rintro ⟨parts, hcut, rfl⟩
    exact scan_of_cut hcut

/-- A text is scanned exactly if it is cut into lexemes to its end.  The tokens are the lexemes
that are kept, none of them empty, each with the position of its first character, and what ends
the list stands at the end of the text.  The comments among the lexemes are complete.  Where a text
is not scanned, it is cut into lexemes up to the position that is reported; no lexeme starts there
or anywhere in what is quoted, which goes on to where the next one starts or to the end. -/
theorem scan_exact (text : String) :
    (∀ ts, scan text = .ok ts ↔ ∃ parts, text.toList = textOf parts ∧ Cut text.toList parts [] ∧
      ts.list ++ [⟨"", ts.finish⟩] = tokensAfter [] parts ++ [⟨"", .past text.toList⟩]) ∧
    (∀ ts, scan text = .ok ts → ∀ t ∈ ts.list, t.text ≠ "") ∧
    (∀ parts rest, Cut text.toList parts rest → ∀ front kind piece back,
      parts = front ++ (kind, piece) :: back → IsLineComment piece →
        ∀ c ∈ (textOf back ++ rest).head?, c = '\n') ∧
    ∀ e, scan text = .error e → ∃ parts stray rest,
      text.toList = textOf parts ++ (stray ++ rest) ∧ Cut text.toList parts (stray ++ rest) ∧
      stray ≠ [] ∧
      (∀ front back, stray = front ++ back → back ≠ [] → ¬ LexemeStarts (back ++ rest)) ∧
      (rest = [] ∨ LexemeStarts rest) ∧
      e = ⟨.stray (String.ofList stray), .past (textOf parts)⟩ := by
  refine ⟨fun ts => ?_, fun ts h => ?_, fun parts rest h front kind piece back => ?_, fun e h => ?_⟩
  · rw [scan_eq_ok_iff]
    constructor
    · rintro ⟨parts, hcut, rfl⟩
      exact ⟨parts, by rw [hcut.text, List.append_nil], hcut, rfl⟩
    · rintro ⟨parts, -, hcut, hts⟩
      obtain ⟨hlist, hfinish⟩ := List.append_inj' hts rfl
      obtain ⟨list, finish⟩ := ts
      cases hlist
      cases hfinish
      exact ⟨parts, hcut, rfl⟩
  · obtain ⟨parts, hcut, rfl⟩ := scan_eq_ok_iff.mp h
    exact text_ne_of_mem_tokensAfter hcut []
  · exact h.head?_of_lineComment
  · obtain ⟨parts, rest, hcut, hnone⟩ := exists_cut text.toList
    by_cases hrest : rest = []
    · subst hrest
      rw [scan_of_cut hcut] at h
      cases h
    · rw [scan_of_stray hcut hnone hrest] at h
      cases h
      obtain ⟨after, hstray, hafter, hinside⟩ := strayPart_reaches hnone
      rw [hstray] at hcut
      refine ⟨parts, strayPart rest, after, hcut.text, hcut, ?_, hinside, hafter, rfl⟩
      obtain ⟨c, cs, rfl⟩ := List.exists_cons_of_ne_nil hrest
      exact List.cons_ne_nil _ _

/-- a comment with a character of two bytes, and a literal that goes on over the end of a line -/
example : (scan "a/*\u00e9*/ \"\\\n\" // b\n ;").toOption =
    some ⟨[⟨"a", 1, 1⟩, ⟨"\"\\\n\"", 1, 9⟩, ⟨";", 3, 2⟩], 3, 3⟩ := by decide +kernel

end Tokens

end EnvConfig
