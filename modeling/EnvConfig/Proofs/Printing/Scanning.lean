import EnvConfig.Lexical.Scan
import EnvConfig.Proofs.Printing.Words
import Mathlib.Data.List.Basic

/-!
# Scanning printed words

* `Stops`: a text at whose front every name and number before it ends;
* `lexeme?_name`, `lexeme?_number`, `lexeme?_literal`, `lexeme?_mark`: each kind of word is found
  whole at the front of a text;
* `scans_layout`: words that are laid out are scanned as these words.
-/

namespace EnvConfig

open Text

/-! ### characters -/

def marks : List Char :=
  ['=', ';', '\x7b', '\x7d', '[', ']', '<', '>', ',', '(', ')', ':']

theorem mem_marks {c : Char} : Lexeme.isMark c = true ↔ c ∈ marks := by
  simp only [Lexeme.isMark, marks, Bool.or_eq_true, beq_iff_eq, List.mem_cons, List.not_mem_nil,
    or_false, or_assoc]

/-- names and numbers end before the text, which is empty or begins with a mark or gap -/
def Stops (cs : List Char) : Prop := ∀ c ∈ cs.head?, c ∈ '\n' :: ' ' :: marks

theorem stop_facts : ∀ c ∈ '\n' :: ' ' :: marks, isNameChar c = false ∧ isDecimalDigit c = false ∧
    c ≠ '.' ∧ c ≠ 'e' ∧ c ≠ 'E' ∧ c ≠ 'x' ∧ c ≠ 'X' := by
  refine List.forall_iff_forall_mem.mp ?_
  decide +kernel

theorem mark_facts : ∀ c ∈ marks, c ≠ '/' ∧ c ≠ '"' ∧ c ≠ Lexeme.singleQuote ∧ c ≠ '-' ∧
    c ≠ '.' ∧ isDecimalDigit c = false ∧ isNameStart c = false ∧ isBlank c = false := by
  refine List.forall_iff_forall_mem.mp ?_
  decide +kernel

theorem gap_facts : ∀ c ∈ ['\n', ' '], c ≠ '/' ∧ c ≠ '"' ∧ c ≠ Lexeme.singleQuote ∧ c ≠ '-' ∧
    c ≠ '.' ∧ isDecimalDigit c = false ∧ isNameStart c = false ∧ Lexeme.isMark c = false ∧
    isBlank c = true := by
  refine List.forall_iff_forall_mem.mp ?_
  decide +kernel

theorem nameStart_facts {c : Char} (h : isNameStart c = true) : c ≠ '/' ∧ c ≠ '"' ∧
    c ≠ Lexeme.singleQuote ∧ c ≠ '-' ∧ c ≠ '.' ∧ isDecimalDigit c = false ∧ isBlank c = false := by
  have hall := forall_nameChar (p := fun c => !isNameStart c || (c != '/' && c != '"' &&
    c != Lexeme.singleQuote && c != '-' && c != '.' && !isDecimalDigit c && !isBlank c))
    (by decide +kernel) (isNameChar_of_isNameStart h)
  simpa [h, and_assoc] using hall

theorem digit_facts {c : Char} (h : c.isDigit = true) : c ≠ '/' ∧ c ≠ '"' ∧
    c ≠ Lexeme.singleQuote ∧ c ≠ '-' ∧ c ≠ 'x' ∧ c ≠ 'X' ∧ isBlank c = false := by
  have hchar : isNameChar c = true := by simp [isNameChar, Char.isAlphanum, h]
  have hall := forall_nameChar (p := fun c => !c.isDigit || (c != '/' && c != '"' &&
    c != Lexeme.singleQuote && c != '-' && c != 'x' && c != 'X' && !isBlank c))
    (by decide +kernel) hchar
  simpa [h, and_assoc] using hall

/-! ### scanners that find nothing -/

namespace Lexeme

variable {c : Char} {cs : List Char}

theorem blockComment_eq_none (h : c ≠ '/') : blockComment (c :: cs) = none := by
  unfold blockComment
  split
  · rename_i heq
    cases heq
    exact absurd rfl h
  · rfl

theorem lineComment_eq_none (h : c ≠ '/') : lineComment (c :: cs) = none := by
  unfold lineComment
  split
  · rename_i heq
    cases heq
    exact absurd rfl h
  · rfl

theorem literal_eq_none (quote : Char) (h : c ≠ quote) : literal quote (c :: cs) = none := if_neg h

theorem run_eq_none {p : Char → Bool} (h : p c = false) : run p (c :: cs) = none := by
  simp [run, h]

theorem hexNumber_eq_none (h : isDecimalDigit c = false) : hexNumber (c :: cs) = none := by
  unfold hexNumber
  split
  · rename_i heq
    cases heq
    exact absurd h (by decide)
  · rfl

theorem unsigned_eq_none (h : isDecimalDigit c = false) : unsigned (c :: cs) = none := by
  rw [unsigned, hexNumber_eq_none h, decimalNumber, run_eq_none h]
  rfl

theorem number_eq_none (hminus : c ≠ '-') (h : isDecimalDigit c = false) :
    number (c :: cs) = none := by
  unfold number
  split
  · rename_i heq
    cases heq
    exact absurd rfl hminus
  · exact unsigned_eq_none h

theorem identifier_eq_none (h : isNameStart c = false) : identifier (c :: cs) = none := by
  simp [identifier, h]

theorem name_eq_none (hdot : c ≠ '.') (h : isNameStart c = false) : name (c :: cs) = none := by
  unfold name
  split
  · rename_i heq
    cases heq
    exact absurd rfl hdot
  · rw [path, identifier_eq_none h]
    rfl

/-- a text that begins with no slash and no quote begins with no comment and no literal -/
theorem lexeme?_eq (hslash : c ≠ '/') (hdouble : c ≠ doubleQuote) (hsingle : c ≠ singleQuote) :
    lexeme? (c :: cs) =
      [(.token, number), (.token, name), (.token, mark), (.gap, blanks)].findSome?
        fun (kind, scan) => (scan (c :: cs)).map fun (piece, rest) => ⟨kind, piece, rest⟩ := by
  simp only [lexeme?, kinds, List.findSome?_cons, blockComment_eq_none hslash,
    lineComment_eq_none hslash, literal_eq_none doubleQuote hdouble,
    literal_eq_none singleQuote hsingle, Option.map_none]

/-! ### marks and gaps -/

theorem lexeme?_mark (h : c ∈ marks) (cs : List Char) :
    lexeme? (c :: cs) = some ⟨.token, [c], cs⟩ := by
  obtain ⟨hslash, hdouble, hsingle, hminus, hdot, hdigit, hstart, -⟩ := mark_facts c h
  have hmark : mark (c :: cs) = some ([c], cs) := if_pos (mem_marks.mpr h)
  simp only [lexeme?_eq hslash hdouble hsingle, List.findSome?_cons,
    number_eq_none hminus hdigit, name_eq_none hdot hstart, hmark, Option.map_none,
    Option.map_some]

theorem takeWhile_append {p : Char → Bool} {piece rest : List Char}
    (hpiece : ∀ c ∈ piece, p c = true) (hrest : ∀ c ∈ rest.head?, p c = false) :
    (piece ++ rest).takeWhile p = piece ∧ (piece ++ rest).dropWhile p = rest := by
  rw [List.takeWhile_append_of_pos hpiece, List.dropWhile_append_of_pos hpiece]
  cases rest with
  | nil => exact ⟨List.append_nil _, rfl⟩
  | cons c cs =>
    have hc : ¬ p c = true := by rw [hrest c rfl]; exact Bool.false_ne_true
    rw [List.takeWhile_cons_of_neg hc, List.dropWhile_cons_of_neg hc, List.append_nil]
    exact ⟨rfl, rfl⟩

theorem run_append {p : Char → Bool} {piece rest : List Char} (hne : piece ≠ [])
    (hpiece : ∀ c ∈ piece, p c = true) (hrest : ∀ c ∈ rest.head?, p c = false) :
    run p (piece ++ rest) = some (piece, rest) := by
  obtain ⟨htake, hdrop⟩ := takeWhile_append hpiece hrest
  rw [run, htake, hdrop, if_neg (by simpa using hne)]

theorem lexeme?_gap (h : c ∈ ['\n', ' ']) (hrest : ∀ d ∈ cs.head?, isBlank d = false) :
    lexeme? (c :: cs) = some ⟨.gap, [c], cs⟩ := by
  obtain ⟨hslash, hdouble, hsingle, hminus, hdot, hdigit, hstart, hmark, hblank⟩ := gap_facts c h
  have hone : ∀ d ∈ [c], isBlank d = true := List.forall_mem_singleton.mpr hblank
  have hblanks : blanks (c :: cs) = some ([c], cs) :=
    run_append (List.cons_ne_nil c []) hone hrest
  have hmark : mark (c :: cs) = none := if_neg (by rw [hmark]; exact Bool.false_ne_true)
  simp only [lexeme?_eq hslash hdouble hsingle, List.findSome?_cons,
    number_eq_none hminus hdigit, name_eq_none hdot hstart, hmark, hblanks, Option.map_none,
    Option.map_some]

/-! ### names -/

theorem identifier_append {piece rest : List Char} (h : isIdentifier piece = true)
    (hrest : ∀ c ∈ rest.head?, isNameChar c = false) :
    identifier (piece ++ rest) = some (piece, rest) := by
  cases piece with
  | nil => cases h
  | cons c piece =>
    rw [isIdentifier, Bool.and_eq_true, List.all_eq_true] at h
    obtain ⟨htake, hdrop⟩ := takeWhile_append h.2 hrest
    rw [List.cons_append, identifier, if_pos h.1, htake, hdrop]

/-- a dot before a path makes it one more part of the path before the dot -/
theorem dotted_of_path {cs piece rest : List Char} (h : path cs = some (piece, rest)) :
    dotted ('.' :: cs) = ('.' :: piece, rest) := by
  unfold path at h
  obtain ⟨⟨first, more⟩, hfirst, h⟩ := Option.map_eq_some_iff.mp h
  cases h
  rw [dotted]
  split
  · rename_i piece' rest' heq
    rw [hfirst] at heq
    cases heq
    rfl
  · rename_i heq
    rw [hfirst] at heq
    cases heq

theorem path_join {ids : List (List Char)} {rest : List Char} (hne : ids ≠ [])
    (hids : ∀ id ∈ ids, isIdentifier id = true) (hrest : Stops rest) :
    path (join '.' ids ++ rest) = some (join '.' ids, rest) := by
  induction ids with
  | nil => exact absurd rfl hne
  | cons id ids ih =>
    have hid := hids id List.mem_cons_self
    cases ids with
    | nil =>
      have hend : dotted rest = ([], rest) := by
        cases rest with
        | nil =>
          rw [dotted]
          intro _ h
          cases h
        | cons c cs =>
          have hdot := (stop_facts c (hrest c rfl)).2.2.1
          rw [dotted]
          rintro _ h
          exact hdot (List.cons.inj h).1
      show path (id ++ rest) = some (id, rest)
      rw [path, identifier_append hid fun c hc => (stop_facts c (hrest c hc)).1]
      simp [hend]
    | cons id' ids =>
      have hmore := ih (List.cons_ne_nil _ _) fun i hi => hids i (List.mem_cons_of_mem _ hi)
      have hsplit : join '.' (id :: id' :: ids) ++ rest =
          id ++ '.' :: (join '.' (id' :: ids) ++ rest) := by simp [join]
      rw [hsplit, path, identifier_append hid (fun c hc => by cases hc; decide), Option.map_some]
      simp [dotted_of_path hmore, join]

theorem path_append {piece rest : List Char} (h : isDotted piece = true) (hrest : Stops rest) :
    path (piece ++ rest) = some (piece, rest) := by
  have hpath := path_join (segments_ne_nil '.' piece) (List.all_eq_true.mp h) hrest
  rwa [join_segments] at hpath

theorem isNameStart_of_isDotted {c : Char} {cs : List Char} (h : isDotted (c :: cs) = true) :
    isNameStart c = true := by
  cases hc : isNameStart c with
  | true => rfl
  | false =>
    have hpath := path_append h (show Stops [] from fun _ hd => nomatch hd)
    rw [path, List.append_nil, identifier_eq_none hc] at hpath
    cases hpath

theorem head_of_isTypeName {c : Char} {cs : List Char} (h : isTypeName (c :: cs) = true) :
    c = '.' ∨ isNameStart c = true := by
  unfold isTypeName at h
  split at h
  · rename_i heq
    exact .inl (List.cons.inj heq).1
  · exact .inr (isNameStart_of_isDotted h)

theorem lexeme?_name {piece rest : List Char} (h : isTypeName piece = true) (hrest : Stops rest) :
    lexeme? (piece ++ rest) = some ⟨.token, piece, rest⟩ := by
  unfold isTypeName at h
  split at h
  · rename_i cs
    have hname : name ('.' :: (cs ++ rest)) = some ('.' :: cs, rest) := by
      rw [name, path_append h hrest]
      rfl
    have hnumber : number ('.' :: (cs ++ rest)) = none :=
      number_eq_none (by decide) (by decide +kernel)
    rw [List.cons_append, lexeme?_eq (by decide) (by decide) (by decide)]
    simp only [List.findSome?_cons, hnumber, hname, Option.map_none, Option.map_some]
  · rename_i hdot
    cases piece with
    | nil => cases h
    | cons c cs =>
      obtain ⟨hslash, hdouble, hsingle, hminus, -, hdigit, -⟩ :=
        nameStart_facts (isNameStart_of_isDotted h)
      have hname : name (c :: (cs ++ rest)) = some (c :: cs, rest) := by
        unfold name
        split
        · rename_i heq
          cases heq
          exact absurd rfl (hdot cs)
        · exact path_append h hrest
      rw [List.cons_append, lexeme?_eq hslash hdouble hsingle]
      simp only [List.findSome?_cons, number_eq_none hminus hdigit, hname, Option.map_none,
        Option.map_some]

/-! ### numbers -/

theorem power_of_stops {cs : List Char} (h : Stops cs) : power cs = ([], cs) := by
  cases cs with
  | nil => rfl
  | cons c cs =>
    obtain ⟨-, -, -, hsmall, hlarge, -⟩ := stop_facts c (h c rfl)
    unfold power
    split <;> simp_all

theorem unsigned_append {ds rest : List Char} (hne : ds ≠ [])
    (hds : ∀ d ∈ ds, d.isDigit = true) (hrest : Stops rest) :
    unsigned (ds ++ rest) = some (ds, rest) := by
  have hhex : hexNumber (ds ++ rest) = none := by
    unfold hexNumber
    split
    · rename_i x cs heq
      -- the second character is a digit too, or the first one of the rest
      have hx : x ≠ 'x' ∧ x ≠ 'X' := by
        obtain ⟨d, ds, rfl⟩ := List.exists_cons_of_ne_nil hne
        have htail : ds ++ rest = x :: cs := (List.cons.inj heq).2
        cases ds with
        | nil =>
          have hstop := stop_facts x (hrest x (by rw [← List.nil_append rest, htail]; rfl))
          exact hstop.2.2.2.2.2
        | cons e ds =>
          have he : e = x := (List.cons.inj htail).1
          have hdigit := digit_facts (hds e (List.mem_cons_of_mem _ List.mem_cons_self))
          exact he ▸ ⟨hdigit.2.2.2.2.1, hdigit.2.2.2.2.2.1⟩
      exact if_neg (by simp [hx.1, hx.2])
    · rfl
  have hrun : run isDecimalDigit (ds ++ rest) = some (ds, rest) :=
    run_append hne (fun d hd => isDecimalDigit_of_isDigit (hds d hd))
      fun c hc => (stop_facts c (hrest c hc)).2.1
  rw [unsigned, hhex, Option.none_or, decimalNumber, hrun, Option.map_some]
  dsimp only
  split
  · exact absurd rfl (stop_facts '.' (hrest '.' rfl)).2.2.1
  · rw [power_of_stops hrest, List.append_nil]

theorem lexeme?_number (n : Int) {rest : List Char} (hrest : Stops rest) :
    lexeme? (Number.decimalText n ++ rest) = some ⟨.token, Number.decimalText n, rest⟩ := by
  have hds : ∀ k, ∀ d ∈ Nat.toDigits 10 k, d.isDigit = true := fun k d hd =>
    Nat.isDigit_of_mem_toDigits (by decide) (by decide) hd
  have hunsigned : ∀ k, unsigned (Nat.toDigits 10 k ++ rest) = some (Nat.toDigits 10 k, rest) :=
    fun k => unsigned_append Nat.toDigits_ne_nil (hds k) hrest
  cases n with
  | ofNat k =>
    obtain ⟨d, ds, hcons⟩ := List.exists_cons_of_ne_nil (Nat.toDigits_ne_nil (n := k) (b := 10))
    obtain ⟨hslash, hdouble, hsingle, hminus, -⟩ :=
      digit_facts (hds k d (by rw [hcons]; exact List.mem_cons_self))
    have hnumber : number (d :: (ds ++ rest)) = some (d :: ds, rest) := by
      unfold number
      split
      · rename_i heq
        cases heq
        exact absurd rfl hminus
      · rw [← List.cons_append, ← hcons]
        exact hunsigned k
    rw [Number.decimalText, hcons, List.cons_append, lexeme?_eq hslash hdouble hsingle]
    simp only [List.findSome?_cons, hnumber, Option.map_some]
  | negSucc k =>
    have hnumber : number ('-' :: (Nat.toDigits 10 (k + 1) ++ rest)) =
        some ('-' :: Nat.toDigits 10 (k + 1), rest) := by
      rw [number, hunsigned (k + 1)]
      rfl
    rw [Number.decimalText, List.cons_append, lexeme?_eq (by decide) (by decide) (by decide)]
    simp only [List.findSome?_cons, hnumber, Option.map_some]

/-! ### literals -/

theorem toClosing_escaped (cs rest : List Char) :
    toClosing doubleQuote (cs.flatMap escape ++ '"' :: rest) =
      some (cs.flatMap escape ++ ['"'], rest) := by
  induction cs with
  | nil =>
    rw [List.flatMap_nil, List.nil_append, toClosing]
    · exact if_pos rfl
    · rintro c cs h
      cases h
  | cons c cs ih =>
    rw [List.flatMap_cons]
    rcases escape_cases c with ⟨d, hd, -⟩ | ⟨hc, hback, hquote, hfeed⟩
    · rw [hd]
      show toClosing doubleQuote ('\\' :: d :: (cs.flatMap escape ++ '"' :: rest)) = _
      rw [toClosing, ih]
      rfl
    · rw [hc]
      show toClosing doubleQuote (c :: (cs.flatMap escape ++ '"' :: rest)) = _
      rw [toClosing, if_neg (show ¬ c = doubleQuote from hquote),
        if_neg (by simp [hback, hfeed]), ih]
      · rfl
      · intro d ds h _
        exact hback h

theorem lexeme?_literal (cs rest : List Char) :
    lexeme? ('"' :: (cs.flatMap escape ++ '"' :: rest)) =
      some ⟨.token, '"' :: (cs.flatMap escape ++ ['"']), rest⟩ := by
  have hliteral : literal doubleQuote ('"' :: (cs.flatMap escape ++ '"' :: rest)) =
      some ('"' :: (cs.flatMap escape ++ ['"']), rest) := by
    rw [literal, if_pos (show '"' = doubleQuote from rfl), toClosing_escaped]
    rfl
  simp only [lexeme?, kinds, List.findSome?_cons, blockComment_eq_none (show '"' ≠ '/' by decide),
    lineComment_eq_none (show '"' ≠ '/' by decide), hliteral, Option.map_none, Option.map_some]

end Lexeme

/-! ### whole texts -/

/-- the tokens of the text `cs` are the words `ws`, wherever it stands -/
def Scans (cs : List Char) (ws : List String) : Prop :=
  ∀ p, ∃ ts, Tokens.scanFrom p cs = .ok ts ∧ ts.list.map (·.text) = ws

theorem scans_nil : Scans [] [] := fun p => ⟨⟨[], p⟩, Tokens.scanFrom_nil p, rfl⟩

theorem Scans.token {cs piece rest : List Char} {ws : List String}
    (hfound : Lexeme.lexeme? cs = some ⟨.token, piece, rest⟩) (h : Scans rest ws) :
    Scans cs (String.ofList piece :: ws) := by
  intro p
  obtain ⟨ts, hts, hws⟩ := h (p.afterAll piece)
  refine ⟨⟨⟨String.ofList piece, p⟩ :: ts.list, ts.finish⟩, ?_, by simp [hws]⟩
  rw [Tokens.scanFrom_of_token hfound, hts]
  rfl

theorem Scans.gap {cs piece rest : List Char} {ws : List String}
    (hfound : Lexeme.lexeme? cs = some ⟨.gap, piece, rest⟩) (h : Scans rest ws) :
    Scans cs ws := by
  intro p
  obtain ⟨ts, hts, hws⟩ := h (p.afterAll piece)
  exact ⟨ts, by rw [Tokens.scanFrom_of_gap hfound, hts], hws⟩

/-! ### words -/

def IsMarkWord (w : String) : Prop := ∃ c ∈ marks, w = String.ofList [c]

instance (w : String) : Decidable (IsMarkWord w) :=
  List.decidableBEx (fun c => w = String.ofList [c]) marks

inductive IsWord : String → Prop where
  | mark {w : String} (h : IsMarkWord w) : IsWord w
  | literal (s : String) : IsWord (literalWord s)
  | name {w : String} (h : isTypeName w.toList = true) : IsWord w
  | number (n : Int32) : IsWord (numberWord n)

theorem IsMarkWord.scans {w : String} {rest : List Char} {ws : List String} (hw : IsMarkWord w)
    (h : Scans rest ws) : Scans (w.toList ++ rest) (w :: ws) := by
  obtain ⟨c, hc, rfl⟩ := hw
  rw [String.toList_ofList]
  exact .token (Lexeme.lexeme?_mark hc rest) h

/-- a word is found whole where the text stops it -/
theorem IsWord.scans {w : String} {rest : List Char} {ws : List String} (hw : IsWord w)
    (hstop : Stops rest) (h : Scans rest ws) : Scans (w.toList ++ rest) (w :: ws) := by
  cases hw with
  | mark hmark => exact hmark.scans h
  | literal s =>
    have hfound := Lexeme.lexeme?_literal s.toList rest
    rw [literalWord, String.toList_ofList, List.cons_append, List.append_assoc]
    exact .token hfound h
  | name hname =>
    have hfound := Scans.token (Lexeme.lexeme?_name hname hstop) h
    rwa [String.ofList_toList] at hfound
  | number n =>
    rw [numberWord, String.toList_ofList]
    exact .token (Lexeme.lexeme?_number n.toInt hstop) h

/-- no word begins with a blank -/
theorem IsWord.exists_cons {w : String} (hw : IsWord w) :
    ∃ c cs, w.toList = c :: cs ∧ isBlank c = false := by
  cases hw with
  | mark hmark =>
    obtain ⟨c, hc, rfl⟩ := hmark
    exact ⟨c, [], String.toList_ofList, (mark_facts c hc).2.2.2.2.2.2.2⟩
  | literal s => exact ⟨'"', _, String.toList_ofList, by decide⟩
  | name hname =>
    cases hlist : w.toList with
    | nil =>
      rw [hlist] at hname
      cases hname
    | cons c cs =>
      refine ⟨c, cs, rfl, ?_⟩
      rw [hlist] at hname
      rcases Lexeme.head_of_isTypeName hname with rfl | hstart
      · decide
      · exact (nameStart_facts hstart).2.2.2.2.2.2
  | number n =>
    rw [numberWord, String.toList_ofList]
    cases n.toInt with
    | ofNat k =>
      obtain ⟨d, ds, hcons⟩ := List.exists_cons_of_ne_nil (Nat.toDigits_ne_nil (n := k) (b := 10))
      have hd : d.isDigit = true := Nat.isDigit_of_mem_toDigits (b := 10) (n := k) (by decide)
        (by decide) (by rw [hcons]; exact List.mem_cons_self)
      exact ⟨d, ds, hcons, (digit_facts hd).2.2.2.2.2.2⟩
    | negSucc k => exact ⟨'-', _, rfl, by decide⟩

theorem isMarkWord_of_mem {w : String} (h : w ∈ ["(", ")", "[", "]", "<", ">", ",", ";"]) :
    IsMarkWord w := by
  simp only [List.mem_cons, List.not_mem_nil, or_false] at h
  rcases h with rfl | rfl | rfl | rfl | rfl | rfl | rfl | rfl <;> decide

/-- where nothing stands between two words, one of them is a mark -/
theorem gap_cases (w next : String) :
    (∃ c ∈ ['\n', ' '], gap w next = [c]) ∨
      gap w next = [] ∧ (IsMarkWord w ∨ IsMarkWord next) := by
  unfold gap
  split
  · exact .inl ⟨'\n', by decide, rfl⟩
  · split
    · rename_i h
      refine .inr ⟨rfl, ?_⟩
      rcases h with h | h | ⟨rfl, -⟩
      · exact .inl (isMarkWord_of_mem (by grind))
      · exact .inr (isMarkWord_of_mem (by grind))
      · exact .inl (isMarkWord_of_mem (by decide))
    · exact .inl ⟨' ', by decide, rfl⟩

theorem exists_layout_cons (w : String) (ws : List String) :
    ∃ rest, layout (w :: ws) = w.toList ++ rest := by
  cases ws with
  | nil => exact ⟨_, rfl⟩
  | cons next ws => exact ⟨_, rfl⟩

theorem scans_gap {c : Char} {rest : List Char} {ws : List String} (hc : c ∈ ['\n', ' '])
    (hrest : ∀ d ∈ rest.head?, isBlank d = false) (h : Scans rest ws) : Scans (c :: rest) ws :=
  .gap (Lexeme.lexeme?_gap hc hrest) h

theorem stops_gap {c : Char} (hc : c ∈ ['\n', ' ']) (rest : List Char) : Stops (c :: rest) := by
  rintro d ⟨⟩
  exact List.mem_append_left marks hc

/-- the tokens of printed words are these words -/
theorem scans_layout {ws : List String} (hws : ∀ w ∈ ws, IsWord w) : Scans (layout ws) ws := by
  induction ws with
  | nil => exact scans_nil
  | cons w ws ih =>
    have hw := hws w List.mem_cons_self
    have hmore := ih fun v hv => hws v (List.mem_cons_of_mem _ hv)
    cases ws with
    | nil =>
      exact hw.scans (stops_gap (by decide) []) (scans_gap (by decide) (fun _ h => nomatch h) hmore)
    | cons next ws =>
      obtain ⟨rest, hlayout⟩ := exists_layout_cons next ws
      show Scans (w.toList ++ (gap w next ++ layout (next :: ws))) (w :: next :: ws)
      -- either the gap stops the word, or the word needs no stop, or the next one is a stop
      rcases gap_cases w next with ⟨c, hc, hgap⟩ | ⟨hgap, hmark | hmark⟩
      · obtain ⟨d, ds, hnext, hblank⟩ :=
          (hws next (List.mem_cons_of_mem _ List.mem_cons_self)).exists_cons
        rw [hgap]
        refine hw.scans (stops_gap hc _) (scans_gap hc ?_ hmore)
        rw [hlayout, hnext]
        rintro _ ⟨⟩
        exact hblank
      · rw [hgap]
        exact hmark.scans hmore
      · rw [hgap]
        refine hw.scans ?_ hmore
        obtain ⟨d, hd, hnext⟩ := hmark
        show Stops (layout (next :: ws))
        rw [hlayout, hnext, String.toList_ofList]
        rintro _ ⟨⟩
        exact List.mem_append_right ['\n', ' '] hd

end EnvConfig
