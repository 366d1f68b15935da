import EnvConfig.Proofs.Lexical.Respacing

/-!
# Two texts with a line feed between them

No lexeme crosses a line feed that is put behind a text that can be scanned: comments and literals
end by themselves or before it, numbers, names and marks hold none, and of a run of blanks it does
not matter where it ends.  So the tokens of two texts with a line feed between them are those of the
first and those of the second, which stand lower by the lines of the first.

* `Position.lowered`, `Token.lowered`: the same place, some lines lower;
* `Lexeme.lexeme?_append_lineFeed`: a lexeme that is no run of blanks is found again;
* `Tokens.scanFrom_blanks`: blanks in front of a text only move it;
* `Tokens.scan_joined`: the tokens of the two texts.
-/

namespace EnvConfig

open Lexeme Text

/-! ### lower places -/

namespace Position

def lowered (n : Nat) (p : Position) : Position := ⟨p.line + n, p.column⟩

theorem after_lowered (n : Nat) (p : Position) (c : Char) :
    (p.lowered n).after c = (p.after c).lowered n := by
  unfold after
  by_cases hc : c = '\n'
  · rw [if_pos hc, if_pos hc]
    show (⟨p.line + n + 1, 1⟩ : Position) = ⟨p.line + 1 + n, 1⟩
    rw [Nat.add_right_comm]
  · rw [if_neg hc, if_neg hc]
    rfl

theorem afterAll_lowered (n : Nat) (p : Position) (cs : List Char) :
    (p.lowered n).afterAll cs = (p.afterAll cs).lowered n := by
  induction cs generalizing p with
  | nil => rfl
  | cons c cs ih => rw [afterAll_cons, afterAll_cons, after_lowered, ih]

/-- behind a line feed a text stands as at its beginning, lower by the lines before it -/
theorem past_lineFeed (before cs : List Char) :
    past (before ++ '\n' :: cs) = (past cs).lowered (before.count '\n' + 1) := by
  have hfeed : past (before ++ ['\n']) = start.lowered (before.count '\n' + 1) := by
    rw [past_concat]
    show (⟨before.count '\n' + 1 + 1, 1⟩ : Position) = ⟨1 + (before.count '\n' + 1), 1⟩
    rw [Nat.add_comm 1]
  have htext : before ++ '\n' :: cs = before ++ ['\n'] ++ cs := by
    rw [List.append_assoc, List.singleton_append]
  rw [htext, ← afterAll_past, hfeed, afterAll_lowered, ← past_nil, afterAll_past, List.nil_append]

end Position

namespace Token

def lowered (n : Nat) (t : Token) : Token := ⟨t.text, t.position.lowered n⟩

theorem text_lowered (n : Nat) (t : Token) : (t.lowered n).text = t.text := rfl

theorem lowered_zero : lowered 0 = id := rfl

end Token

/-- the tokens of a text behind a line feed -/
theorem tokensAfter_lineFeed (before cs : List Char) (parts : List (Kind × List Char)) :
    tokensAfter (before ++ '\n' :: cs) parts =
      (tokensAfter cs parts).map (Token.lowered (before.count '\n' + 1)) := by
  induction parts generalizing cs with
  | nil => rfl
  | cons part parts ih =>
    obtain ⟨kind, piece⟩ := part
    have hmore : before ++ '\n' :: cs ++ piece = before ++ '\n' :: (cs ++ piece) := by
      rw [List.append_assoc, List.cons_append]
    cases kind with
    | gap =>
      show tokensAfter (before ++ '\n' :: cs ++ piece) parts = _
      rw [hmore, ih]
      rfl
    | token =>
      show ⟨String.ofList piece, .past (before ++ '\n' :: cs)⟩ ::
        tokensAfter (before ++ '\n' :: cs ++ piece) parts = _
      rw [hmore, ih, Position.past_lineFeed]
      rfl

/-! ### lexemes in front of a line feed -/

namespace Lexeme

/-- a shape without line feeds ends where it ended before a line feed was put behind the text -/
theorem scanner_of_no_lineFeed {s : Shape} (hsolid : ∀ p, s.Holds p → '\n' ∉ p)
    {piece cs : List Char} (hpiece : s.Holds piece) (hleads : Leads s.kind piece (piece ++ cs))
    (more : List Char) :
    s.scanner (piece ++ (cs ++ '\n' :: more)) = some (piece, cs ++ '\n' :: more) := by
  obtain ⟨tail, rest, hreach⟩ := s.longest.reaches (cs ++ '\n' :: more) hpiece
  have hlonger := s.longest.sound hreach
  have hcut := (s.cuts _ _ _ hreach).1
  rw [List.append_assoc, List.append_cancel_left_eq] at hcut
  -- what is cut off holds no line feed, so it ends before the one behind the text
  have hfront : tail <+: cs := by
    rcases List.append_eq_append_iff.mp hcut with ⟨front, rfl, -⟩ | ⟨back, rfl, hback⟩
    · exact List.prefix_append _ _
    · cases back with
      | nil => rw [List.append_nil]
      | cons c back =>
        obtain rfl : '\n' = c := (List.cons.inj hback).1
        exact absurd (by simp) (hsolid _ hlonger)
  have htail : tail = [] := by
    have hnot := hleads.longest ⟨s, rfl, hlonger⟩
      ((List.prefix_append_right_inj piece).mpr hfront)
    have hlength := hnot.length_le
    rw [List.length_append] at hlength
    exact List.eq_nil_of_length_eq_zero (by omega)
  rw [htail, List.nil_append] at hcut
  rw [hreach, htail, List.append_nil, hcut]

/-- A lexeme that is no run of blanks is found again in front of a text with a line feed behind. -/
theorem lexeme?_append_lineFeed {kind : Kind} {piece cs : List Char}
    (hleads : Leads kind piece (piece ++ cs)) (hblank : ¬ IsRun isBlank piece) (more : List Char) :
    lexeme? (piece ++ (cs ++ '\n' :: more)) = some ⟨kind, piece, cs ++ '\n' :: more⟩ := by
  obtain ⟨s, rfl, hpiece⟩ := hleads.isLexeme
  have hfeed : Breaks '\n' := .inl (by decide)
  refine lexeme?_of_scanner ?_
  cases s with
  | blockComment => exact blockComment_append hpiece _
  | doubleQuoted => exact literal_append (by decide) hpiece _
  | singleQuoted => exact literal_append (by decide) hpiece _
  | blanks => exact absurd hpiece hblank
  | lineComment =>
    refine scanner_of_no_lineFeed ?_ hpiece hleads more
    rintro p ⟨body, rfl, hbody⟩
    simpa using hbody
  | number =>
    refine scanner_of_no_lineFeed (fun p hp hmem => ?_) hpiece hleads more
    exact not_breaks_of_mem_number hp _ hmem hfeed
  | name =>
    refine scanner_of_no_lineFeed (fun p hp hmem => ?_) hpiece hleads more
    exact not_breaks_of_mem_name hp _ hmem hfeed
  | mark =>
    refine scanner_of_no_lineFeed (fun p hp hmem => ?_) hpiece hleads more
    exact not_breaks_of_mem_mark hp _ hmem hfeed

theorem Leads.kind_of_blanks {kind : Kind} {piece cs : List Char} (h : Leads kind piece cs)
    (hblank : IsRun isBlank piece) : kind = .gap := by
  obtain ⟨s, rfl, hs⟩ := h.isLexeme
  have hof := Shape.of?_of_holds hs []
  rw [Shape.of?_of_holds (show Shape.blanks.Holds piece from hblank) [], Option.some.injEq] at hof
  rw [← hof]
  rfl

end Lexeme

/-! ### whole texts -/

namespace Tokens

theorem scanFrom_blank {c : Char} (hc : isBlank c = true) (p : Position) (cs : List Char) :
    scanFrom p (c :: cs) = scanFrom (p.after c) cs := by
  rw [scanFrom_of_gap (lexeme?_blank hc cs), Position.afterAll_cons]
  cases cs with
  | nil => rfl
  | cons d cs =>
    by_cases hd : isBlank d = true
    · rw [scanFrom_of_gap (lexeme?_blank hd cs), List.takeWhile_cons_of_pos hd,
        List.dropWhile_cons_of_pos hd]
    · rw [List.takeWhile_cons_of_neg hd, List.dropWhile_cons_of_neg hd]
      rfl

/-- blanks in front of a text only move it, whether or not other blanks follow -/
theorem scanFrom_blanks {g : List Char} (hg : ∀ c ∈ g, isBlank c = true) (p : Position)
    (cs : List Char) : scanFrom p (g ++ cs) = scanFrom (p.afterAll g) cs := by
  induction g generalizing p with
  | nil => rfl
  | cons c g ih =>
    rw [List.cons_append, scanFrom_blank (hg c List.mem_cons_self),
      ih fun d hd => hg d (List.mem_cons_of_mem c hd), Position.afterAll_cons]

/-- behind a text that is cut into lexemes to its end, and a line feed, the scanner goes on -/
theorem scanFrom_append_lineFeed {cs rest : List Char} {parts : List (Kind × List Char)}
    (h : Cut cs parts rest) (hrest : rest = []) (before more : List Char) :
    scanFrom (.past before) (cs ++ '\n' :: more) =
      (scanFrom (.past (before ++ cs ++ ['\n'])) more).map fun ts =>
        ⟨tokensAfter before parts ++ ts.list, ts.finish⟩ := by
  induction h generalizing before with
  | nil rest =>
    rw [hrest, List.nil_append, scanFrom_blank (by decide), ← Position.past_concat, List.append_nil]
    cases scanFrom (.past (before ++ ['\n'])) more <;> rfl
  | @cons kind piece cs rest parts hfirst hmore ih =>
    have hnext := ih hrest (before ++ piece)
    rw [List.append_assoc before piece cs] at hnext
    rw [List.append_assoc]
    by_cases hblank : IsRun isBlank piece
    · cases hfirst.kind_of_blanks hblank
      rw [scanFrom_blanks hblank.2, Position.afterAll_past, hnext]
      rfl
    · have hfound := lexeme?_append_lineFeed hfirst hblank more
      cases kind with
      | gap =>
        rw [scanFrom_of_gap hfound, Position.afterAll_past, hnext]
        rfl
      | token =>
        rw [scanFrom_of_token hfound, Position.afterAll_past, hnext]
        cases scanFrom (.past (before ++ (piece ++ cs) ++ ['\n'])) more <;> rfl

/-- The tokens of two texts with a line feed between them: those of the first and, as many lines
lower as the first has with the line feed, those of the second. -/
theorem scan_joined {text other : String} {ts us : Tokens} (htext : scan text = .ok ts)
    (hother : scan other = .ok us) :
    scan (text ++ "\n" ++ other) =
      .ok ⟨ts.list ++ us.list.map (Token.lowered (text.toList.count '\n' + 1)),
        us.finish.lowered (text.toList.count '\n' + 1)⟩ := by
  obtain ⟨parts, hcut, rfl⟩ := scan_eq_ok_iff.mp htext
  obtain ⟨parts', hcut', rfl⟩ := scan_eq_ok_iff.mp hother
  have hchars : (text ++ "\n" ++ other).toList = text.toList ++ '\n' :: other.toList := by simp
  have hwhole : textOf parts' = other.toList := by rw [hcut'.text, List.append_nil]
  have hlow : text.toList ++ ['\n'] ++ other.toList = text.toList ++ '\n' :: other.toList := by
    rw [List.append_assoc, List.singleton_append]
  have htokens := tokensAfter_lineFeed text.toList [] parts'
  rw [scan, hchars, ← Position.past_nil, scanFrom_append_lineFeed hcut rfl, List.nil_append,
    scanFrom_of_cut hcut', scanFrom_nil, hwhole, hlow, Position.past_lineFeed, htokens]
  simp [Except.map]

end Tokens

end EnvConfig
