import EnvConfig.Proofs.Printing.Scanning
import Mathlib.Data.List.Infix

/-!
# The shapes of lexemes

What a lexeme looks like is said here without the scanners: what a comment, a literal, a name, a
mark and a run of blanks are as texts.  Each scanner cuts off the longest start of a text
that has its shape, and finds nothing only where no start has it.

* `IsBlockComment`, `IsLineComment`, `IsLiteral`, `IsMark`, `IsRun`: the shapes (that of a name is
  `isTypeName`);
* `Scanner.Longest`: a scanner cuts off the longest start that has a shape;
* `longest_blockComment`, `longest_lineComment`, `longest_literal`, `longest_name`, `longest_mark`,
  `longest_blanks`: so does each scanner.
-/

namespace EnvConfig.Lexeme

open Text

/-! ### shapes -/

/-- some characters with `p`, and nothing else -/
def IsRun (p : Char → Bool) (cs : List Char) : Prop := cs ≠ [] ∧ ∀ c ∈ cs, p c = true

/-- a comment from `/*` to the first `*/` after it -/
def IsBlockComment (piece : List Char) : Prop :=
  ∃ body, piece = '/' :: '*' :: (body ++ ['*', '/']) ∧ ¬ ['*', '/'] <:+: body ++ ['*']

/-- two slashes and what comes after them on the line -/
def IsLineComment (piece : List Char) : Prop :=
  ∃ body, piece = '/' :: '/' :: body ∧ '\n' ∉ body

/-- what can stand between two quotes: any character after a backslash, and without one any that is
no quote, backslash or line feed -/
inductive IsQuoted (quote : Char) : List Char → Prop
  | nil : IsQuoted quote []
  | plain {c : Char} {cs : List Char} (hquote : c ≠ quote) (hback : c ≠ '\\') (hfeed : c ≠ '\n')
      (h : IsQuoted quote cs) : IsQuoted quote (c :: cs)
  | escaped (c : Char) {cs : List Char} (h : IsQuoted quote cs) : IsQuoted quote ('\\' :: c :: cs)

def IsLiteral (quote : Char) (piece : List Char) : Prop :=
  ∃ body, piece = quote :: (body ++ [quote]) ∧ IsQuoted quote body

def IsMark (piece : List Char) : Prop := ∃ c, piece = [c] ∧ isMark c = true

/-! ### scanners that cut off as much as they can -/

/-- What `s` cuts off has the shape `P`, and where a start of the text has this shape `s` cuts off
no less. -/
structure Scanner.Longest (s : Scanner) (P : List Char → Prop) : Prop where
  sound : ∀ {cs piece rest}, s cs = some (piece, rest) → P piece
  reaches : ∀ {piece} rest, P piece → ∃ more rest', s (piece ++ rest) = some (piece ++ more, rest')

theorem run_reaches {p : Char → Bool} {piece : List Char} (h : IsRun p piece) (rest : List Char) :
    run p (piece ++ rest) = some (piece ++ rest.takeWhile p, rest.dropWhile p) := by
  rw [run, List.takeWhile_append_of_pos h.2, List.dropWhile_append_of_pos h.2,
    if_neg (by simp [h.1])]

theorem longest_run (p : Char → Bool) : Scanner.Longest (run p) (IsRun p) where
  sound {cs piece rest} h := by
    unfold run at h
    split at h
    · cases h
    · rename_i hne
      cases h
      exact ⟨by simpa using hne, fun c hc => List.all_eq_true.mp List.all_takeWhile c hc⟩
  reaches rest h := ⟨_, _, run_reaches h rest⟩

theorem longest_blanks : Scanner.Longest blanks (IsRun isBlank) := longest_run isBlank

theorem longest_mark : Scanner.Longest mark IsMark where
  sound {cs piece rest} h := by
    cases cs with
    | nil => cases h
    | cons c cs =>
      simp only [mark, single] at h
      split at h
      · rename_i hc
        cases h
        exact ⟨c, rfl, hc⟩
      · cases h
  reaches {piece} rest h := by
    obtain ⟨c, rfl, hc⟩ := h
    exact ⟨[], rest, if_pos hc⟩

/-! ### comments -/

theorem lineComment_reaches {piece : List Char} (h : IsLineComment piece) (rest : List Char) :
    lineComment (piece ++ rest) =
      some (piece ++ rest.takeWhile (· != '\n'), rest.dropWhile (· != '\n')) := by
  obtain ⟨body, rfl, hbody⟩ := h
  have hall : ∀ c ∈ body, (c != '\n') = true := fun c hc => by
    rw [bne_iff_ne]
    exact fun he => hbody (he ▸ hc)
  rw [List.cons_append, List.cons_append, lineComment, List.takeWhile_append_of_pos hall,
    List.dropWhile_append_of_pos hall]
  rfl

theorem longest_lineComment : Scanner.Longest lineComment IsLineComment where
  sound {cs piece rest} h := by
    unfold lineComment at h
    split at h
    · rename_i cs
      cases h
      refine ⟨_, rfl, fun hmem => ?_⟩
      have hne := List.all_eq_true.mp List.all_takeWhile _ hmem
      simp at hne
    · cases h
  reaches rest h := ⟨_, _, lineComment_reaches h rest⟩

/-- no `*/` stands in the text, and none is begun at its end by a star -/
theorem not_infix_cons_iff {c : Char} {body : List Char} :
    ¬ ['*', '/'] <:+: c :: body ++ ['*'] ↔
      ¬ (c = '*' ∧ body.head? = some '/') ∧ ¬ ['*', '/'] <:+: body ++ ['*'] := by
  have hhead : ['*', '/'] <+: c :: (body ++ ['*']) ↔ c = '*' ∧ body.head? = some '/' := by
    rw [List.cons_prefix_cons, eq_comm]
    cases body with
    | nil => simp
    | cons d body => simp [List.cons_prefix_cons, eq_comm]
  rw [List.cons_append, List.infix_cons_iff, not_or, hhead]

theorem toCommentEnd_sound {cs piece rest : List Char} (h : toCommentEnd cs = some (piece, rest)) :
    ∃ body, piece = body ++ ['*', '/'] ∧ ¬ ['*', '/'] <:+: body ++ ['*'] := by
  fun_induction toCommentEnd cs generalizing piece with
  | case1 cs =>
    cases h
    exact ⟨[], rfl, by decide⟩
  | case2 c cs hstop ih =>
    simp only [Option.map_eq_some_iff, Prod.exists, Prod.mk.injEq] at h
    obtain ⟨p, r, hp, rfl, rfl⟩ := h
    obtain ⟨body, rfl, hbody⟩ := ih hp
    refine ⟨c :: body, rfl, not_infix_cons_iff.mpr ⟨?_, hbody⟩⟩
    rintro ⟨hc, hhead⟩
    obtain ⟨ds, rfl⟩ := List.head?_eq_some_iff.mp hhead
    exact hstop _ hc (cuts_toCommentEnd _ _ _ hp).1.symm
  | case3 => cases h

theorem toCommentEnd_reaches {body : List Char} (h : ¬ ['*', '/'] <:+: body ++ ['*'])
    (rest : List Char) :
    toCommentEnd (body ++ '*' :: '/' :: rest) = some (body ++ ['*', '/'], rest) := by
  induction body with
  | nil => rfl
  | cons c body ih =>
    obtain ⟨hstop, hbody⟩ := not_infix_cons_iff.mp h
    rw [List.cons_append, toCommentEnd, ih hbody]
    · rfl
    · intro ds hc hds
      refine hstop ⟨hc, ?_⟩
      cases body with
      | nil => cases hds
      | cons d body => rw [(List.cons.inj hds).1]; rfl

/-- what comes after a closed comment does not matter -/
theorem blockComment_append {piece : List Char} (h : IsBlockComment piece) (rest : List Char) :
    blockComment (piece ++ rest) = some (piece, rest) := by
  obtain ⟨body, rfl, hbody⟩ := h
  have hend := toCommentEnd_reaches hbody rest
  simp only [List.cons_append, List.append_assoc, List.nil_append, blockComment, hend,
    Option.map_some]

theorem longest_blockComment : Scanner.Longest blockComment IsBlockComment where
  sound {cs piece rest} h := by
    unfold blockComment at h
    split at h
    · simp only [Option.map_eq_some_iff, Prod.exists, Prod.mk.injEq] at h
      obtain ⟨p, r, hp, rfl, rfl⟩ := h
      obtain ⟨body, rfl, hbody⟩ := toCommentEnd_sound hp
      exact ⟨body, rfl, hbody⟩
    · cases h
  reaches {piece} rest h := ⟨[], rest, by rw [blockComment_append h, List.append_nil]⟩

/-! ### literals -/

variable {quote : Char}

theorem toClosing_sound {cs piece rest : List Char} (h : toClosing quote cs = some (piece, rest)) :
    ∃ body, piece = body ++ [quote] ∧ IsQuoted quote body := by
  fun_induction toClosing quote cs generalizing piece with
  | case1 => cases h
  | case2 c cs ih =>
    simp only [Option.map_eq_some_iff, Prod.exists, Prod.mk.injEq] at h
    obtain ⟨p, r, hp, rfl, rfl⟩ := h
    obtain ⟨body, rfl, hbody⟩ := ih hp
    exact ⟨_, rfl, .escaped c hbody⟩
  | case3 =>
    cases h
    exact ⟨[], rfl, .nil⟩
  | case4 => cases h
  | case5 c cs hc hquote hstop ih =>
    simp only [Option.map_eq_some_iff, Prod.exists, Prod.mk.injEq] at h
    obtain ⟨p, r, hp, rfl, rfl⟩ := h
    obtain ⟨body, rfl, hbody⟩ := ih hp
    rw [not_or] at hstop
    exact ⟨c :: body, rfl, .plain hquote hstop.1 hstop.2 hbody⟩

theorem toClosing_reaches {body : List Char} (hquote : quote ≠ '\\') (h : IsQuoted quote body)
    (rest : List Char) :
    toClosing quote (body ++ quote :: rest) = some (body ++ [quote], rest) := by
  induction h with
  | nil =>
    rw [List.nil_append, toClosing, if_pos rfl]
    · rfl
    · exact fun c cs hc => absurd hc hquote
  | plain hne hback hfeed _ ih =>
    rw [List.cons_append, toClosing, if_neg hne, if_neg (by simp [hback, hfeed]), ih]
    · rfl
    · exact fun c cs hc => absurd hc hback
  | escaped c _ ih =>
    rw [List.cons_append, List.cons_append, toClosing, ih]
    rfl

/-- nor does what comes after a closed literal -/
theorem literal_append (hquote : quote ≠ '\\') {piece : List Char} (h : IsLiteral quote piece)
    (rest : List Char) : literal quote (piece ++ rest) = some (piece, rest) := by
  obtain ⟨body, rfl, hbody⟩ := h
  have hclosing := toClosing_reaches hquote hbody rest
  simp only [List.cons_append, List.append_assoc, List.nil_append, literal, if_pos, hclosing,
    Option.map_some]

theorem longest_literal (hquote : quote ≠ '\\') :
    Scanner.Longest (literal quote) (IsLiteral quote) where
  sound {cs piece rest} h := by
    unfold literal at h
    split at h
    · split at h
      · rename_i hc
        simp only [Option.map_eq_some_iff, Prod.exists, Prod.mk.injEq] at h
        obtain ⟨p, r, hp, rfl, rfl⟩ := h
        obtain ⟨body, rfl, hbody⟩ := toClosing_sound hp
        exact ⟨body, by rw [hc], hbody⟩
      · cases h
    · cases h
  reaches {piece} rest h := ⟨[], rest, by rw [literal_append hquote h, List.append_nil]⟩

/-! ### names -/

theorem identifier_sound {cs piece rest : List Char} (h : identifier cs = some (piece, rest)) :
    isIdentifier piece = true := by
  unfold identifier at h
  split at h
  · split at h
    · rename_i hc
      cases h
      rw [isIdentifier, hc, Bool.true_and]
      exact List.all_takeWhile
    · cases h
  · cases h

theorem identifier_reaches {piece : List Char} (h : isIdentifier piece = true) (rest : List Char) :
    identifier (piece ++ rest) =
      some (piece ++ rest.takeWhile isNameChar, rest.dropWhile isNameChar) := by
  cases piece with
  | nil => cases h
  | cons c piece =>
    rw [isIdentifier, Bool.and_eq_true, List.all_eq_true] at h
    rw [List.cons_append, identifier, if_pos h.1, List.takeWhile_append_of_pos h.2,
      List.dropWhile_append_of_pos h.2]
    rfl

theorem dotted_sound (cs : List Char) :
    (dotted cs).1 = [] ∨ ∃ ds, (dotted cs).1 = '.' :: ds ∧ isDotted ds = true := by
  fun_induction dotted cs with
  | case1 more piece rest h _ piece' rest' heq ih =>
    have hpiece := identifier_sound h
    rw [heq] at ih
    rcases ih with hnil | ⟨ds, hds, hdotted⟩
    · refine .inr ⟨piece, ?_, isDotted_of_isIdentifier hpiece⟩
      have hnil : piece' = [] := hnil
      rw [hnil, List.append_nil]
    · refine .inr ⟨piece ++ '.' :: ds, ?_, by rw [isDotted_append hpiece, hdotted]⟩
      have hds : piece' = '.' :: ds := hds
      rw [hds]
      rfl
  | case2 => exact .inl rfl
  | case3 => exact .inl rfl

theorem path_sound {cs piece rest : List Char} (h : path cs = some (piece, rest)) :
    isDotted piece = true := by
  unfold path at h
  simp only [Option.map_eq_some_iff, Prod.exists, Prod.mk.injEq] at h
  obtain ⟨p, r, hp, rfl, rfl⟩ := h
  have hpiece := identifier_sound hp
  rcases dotted_sound r with hnil | ⟨ds, hds, hdotted⟩
  · rw [hnil, List.append_nil]
    exact isDotted_of_isIdentifier hpiece
  · rw [hds, isDotted_append hpiece, hdotted]

theorem path_join_reaches {ids : List (List Char)} (hne : ids ≠ [])
    (hids : ∀ id ∈ ids, isIdentifier id = true) (rest : List Char) :
    ∃ more rest', path (join '.' ids ++ rest) = some (join '.' ids ++ more, rest') := by
  induction ids with
  | nil => exact absurd rfl hne
  | cons id ids ih =>
    have hid := hids id List.mem_cons_self
    cases ids with
    | nil =>
      show ∃ more rest', path (id ++ rest) = some (id ++ more, rest')
      rw [path, identifier_reaches hid, Option.map_some]
      exact ⟨_, _, congrArg some (Prod.ext (List.append_assoc ..) rfl)⟩
    | cons id' ids =>
      obtain ⟨more, rest', hmore⟩ := ih (List.cons_ne_nil _ _) fun i hi =>
        hids i (List.mem_cons_of_mem _ hi)
      have hsplit : join '.' (id :: id' :: ids) ++ rest =
          id ++ '.' :: (join '.' (id' :: ids) ++ rest) := by simp [join]
      refine ⟨more, rest', ?_⟩
      rw [hsplit, path, identifier_append hid (fun c hc => by cases hc; decide), Option.map_some]
      simp [dotted_of_path hmore, join]

theorem path_reaches {piece : List Char} (h : isDotted piece = true) (rest : List Char) :
    ∃ more rest', path (piece ++ rest) = some (piece ++ more, rest') := by
  have hpath := path_join_reaches (segments_ne_nil '.' piece) (List.all_eq_true.mp h) rest
  rwa [join_segments] at hpath

theorem longest_name : Scanner.Longest name (isTypeName · = true) where
  sound {cs piece rest} h := by
    unfold name at h
    split at h
    · simp only [Option.map_eq_some_iff, Prod.exists, Prod.mk.injEq] at h
      obtain ⟨p, r, hp, rfl, rfl⟩ := h
      exact path_sound hp
    · exact isTypeName_of_isDotted (path_sound h)
  reaches {piece} rest h := by
    unfold isTypeName at h
    split at h
    · rename_i cs
      obtain ⟨more, rest', hpath⟩ := path_reaches h rest
      refine ⟨more, rest', ?_⟩
      rw [List.cons_append, name, hpath]
      rfl
    · rename_i hdot
      obtain ⟨more, rest', hpath⟩ := path_reaches h rest
      refine ⟨more, rest', ?_⟩
      cases piece with
      | nil => cases h
      | cons c piece =>
        unfold name
        split
        · rename_i heq
          exact absurd (by rw [(List.cons.inj heq).1]) (hdot piece)
        · exact hpath

end EnvConfig.Lexeme
