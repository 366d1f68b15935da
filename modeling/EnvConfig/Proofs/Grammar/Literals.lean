import EnvConfig.Proofs.Lexical.Lossless
import EnvConfig.Proofs.Printing.Declarations

/-!
# Where a literal can stand

A token that begins with a quote is a literal, and it spells the same string as the dialect, as the
path of an import, and as the value of an option.  Only, no option takes a literal that is broken
across lines with a backslash: the other places do.

* `Reader.Refuses`: what a reader refuses, behind tokens with given texts;
* `Lexeme.IsLexeme.isLiteral`: the tokens that begin with a quote;
* `isConstant_iff`: the literals that options take;
* `Tokens.literal_places`: what becomes of a literal in each of the places.
-/

namespace EnvConfig

/-! ### refusals -/

namespace Reader

variable {α β σ : Type} {r : Reader α} {f : α → Reader β} {ws vs : List String} {v w : String}
  {fault : Fault} {P : α → Prop}

/-- behind tokens with the texts `ws`, `r` refuses a token with the text `w` for `fault` -/
def Refuses (r : Reader α) (ws : List String) (w : String) (fault : Fault) : Prop :=
  ∀ (ts : List Token) (t : Token) (rest : List Token), ts.map (·.text) = ws → t.text = w →
    r (ts ++ t :: rest) = .error ⟨fault, some t⟩

theorem refuses_token {test : String → Bool} (what : Expectation) (h : test w = false) :
    Refuses (token test what) [] w (.expected what w) := by
  intro ts t rest hts ht
  rw [List.map_eq_nil_iff] at hts
  subst hts ht
  exact if_neg (by rw [h]; exact Bool.false_ne_true)

theorem Refuses.bind (h : Refuses r ws w fault) : Refuses (r >>= f) ws w fault := by
  intro ts t rest hts ht
  show (r (ts ++ t :: rest)).bind _ = _
  rw [h ts t rest hts ht]
  rfl

theorem Refuses.map {g : α → β} (h : Refuses r ws w fault) : Refuses (g <$> r) ws w fault := by
  rw [map_eq_pure_bind]
  exact h.bind

/-- what is refused after something has been read -/
theorem Reads.bind_refuses (h : Reads (vs.headD w) r ws P)
    (hf : ∀ a, P a → Refuses (f a) vs w fault) : Refuses (r >>= f) (ws ++ vs) w fault := by
  intro ts t rest hts ht
  obtain ⟨us, us', rfl, hus, hus'⟩ := List.map_eq_append_iff.mp hts
  obtain ⟨a, ha, hP⟩ := h us (us' ++ t :: rest) hus (by rw [headText_append, hus', ← ht]; rfl)
  show (r (us ++ us' ++ t :: rest)).bind _ = _
  rw [List.append_assoc, ha]
  exact hf a hP us' t rest hus' ht

theorem Reads.bind_cons_refuses (h : Reads (vs.headD w) r [v] P)
    (hf : ∀ a, P a → Refuses (f a) vs w fault) : Refuses (r >>= f) (v :: vs) w fault :=
  h.bind_refuses hf

theorem Reads.bind_nil_refuses (h : Reads (ws.headD w) r [] P)
    (hf : ∀ a, P a → Refuses (f a) ws w fault) : Refuses (r >>= f) ws w fault :=
  h.bind_refuses hf

theorem refuses_after (r' : Reader α) (h : ∀ t ts, t.text = v → r (t :: ts) = r' ts)
    (hr : Refuses r' ws w fault) : Refuses r (v :: ws) w fault := by
  intro ts t rest hts ht
  obtain ⟨u, ts, rfl, hu, hts⟩ := List.map_eq_cons_iff.mp hts
  exact (h u _ hu).trans (hr ts t rest hts ht)

variable {item : σ → Reader σ} {takes : ∀ s, (item s).Takes} {close : String}

theorem refuses_foldUntil {s : σ} (hv : v ≠ close) (h : Refuses (item s) (v :: ws) w fault) :
    Refuses (foldUntil close item takes s) (v :: ws) w fault := by
  intro ts t rest hts ht
  have hitem := h ts t rest hts ht
  obtain ⟨u, ts, rfl, hu, -⟩ := List.map_eq_cons_iff.mp hts
  have hclose : ¬ (u.text == close) = true := by simpa [hu] using hv
  rw [List.cons_append] at hitem ⊢
  rw [foldUntil_cons, if_neg hclose, hitem]
  rfl

/-- what is refused after items have been read -/
theorem steps_foldUntil_refuses :
    Steps item (· ≠ close) fun s ws => Refuses (foldUntil close item takes s) ws w fault := by
  intro s v ws vs P hv hitem hrest ts t rest hts ht
  obtain ⟨us, us', rfl, hus, hus'⟩ := List.map_eq_append_iff.mp hts
  obtain ⟨s', hs', hP⟩ := hitem _ us (us' ++ t :: rest) hus rfl
  obtain ⟨u, us, rfl, hu, -⟩ := List.map_eq_cons_iff.mp hus
  have hclose : ¬ (u.text == close) = true := by simpa [hu] using hv
  rw [List.append_assoc, List.cons_append, foldUntil_cons, if_neg hclose, ← List.cons_append, hs']
  exact hrest s' hP us' t rest hus' ht

end Reader

/-! ### tokens that begin with a quote -/

namespace Lexeme

/-- a lexeme that begins with a quote is a literal -/
theorem IsLexeme.isLiteral {kind : Kind} {piece : List Char} {quote : Char}
    (h : IsLexeme kind piece) (hhead : piece.head? = some quote)
    (hquote : quote = doubleQuote ∨ quote = singleQuote) : IsLiteral quote piece := by
  obtain ⟨s, -, hs⟩ := h
  obtain ⟨cs, rfl⟩ := List.head?_eq_some_iff.mp hhead
  have hof := Shape.of?_of_holds hs []
  rw [List.append_nil] at hof
  rcases hquote with rfl | rfl
  · rw [Shape.of?_cons (by decide), if_pos rfl, Option.some.injEq] at hof
    subst hof
    exact hs
  · rw [Shape.of?_cons (by decide), if_neg (by decide), if_pos rfl, Option.some.injEq] at hof
    subst hof
    exact hs

end Lexeme

open Lexeme

/-- the text of the token begins with a quote -/
def Token.IsQuoted (t : Token) : Prop :=
  t.text.toList.head? = some doubleQuote ∨ t.text.toList.head? = some singleQuote

theorem Tokens.isLiteral_of_isQuoted {text : String} {ts : Tokens} {t : Token}
    (hscan : scan text = .ok ts) (ht : t ∈ ts.list) (hquoted : t.IsQuoted) :
    IsLiteral doubleQuote t.text.toList ∨ IsLiteral singleQuote t.text.toList := by
  obtain ⟨parts, hcut, rfl⟩ := scan_eq_ok_iff.mp hscan
  have hlexeme := isLexeme_of_mem_tokensAfter hcut [] t ht
  exact hquoted.imp (hlexeme.isLiteral · (.inl rfl)) (hlexeme.isLiteral · (.inr rfl))

namespace Grammar

open Reader

theorem isBetween_iff {quote : Char} {p : Char → Bool} {body : List Char} :
    isBetween quote p (quote :: (body ++ [quote])) = true ↔ ∀ c ∈ body, p c = true := by
  refine ⟨fun h => ?_, isBetween_concat⟩
  obtain ⟨d, ds, hcons⟩ := List.exists_cons_of_ne_nil (show body ++ [quote] ≠ [] by simp)
  rw [hcons, isBetween, ← hcons, List.dropLast_concat, Bool.and_eq_true] at h
  exact List.all_eq_true.mp h.2

theorem isLiteral_of_literal {piece : List Char}
    (h : IsLiteral Lexeme.doubleQuote piece ∨ IsLiteral Lexeme.singleQuote piece) :
    isLiteral piece = true := by
  rw [isLiteral, Bool.or_eq_true]
  refine h.imp ?_ ?_
  all_goals
    rintro ⟨body, rfl, -⟩
    exact isBetween_concat fun _ _ => rfl

/-- behind a quote there is only one way to go on to a constant -/
theorem isConstant_cons {quote : Char}
    (hquote : quote = Lexeme.doubleQuote ∨ quote = Lexeme.singleQuote) (cs : List Char) :
    isConstant (quote :: cs) = isBetween quote isNotLineFeed (quote :: cs) := by
  rcases hquote with rfl | rfl
  · have hnumeric : isNumeric (doubleQuote :: cs) = false := rfl
    have hword : isWord (doubleQuote :: cs) = false := rfl
    have hother : isBetween singleQuote isNotLineFeed (doubleQuote :: cs) = false := by
      cases cs <;> rfl
    show isConstant (doubleQuote :: cs) = _
    rw [isConstant, hnumeric, hword, hother, Bool.false_or, Bool.or_false, Bool.or_false]
    rfl
  · have hnumeric : isNumeric (singleQuote :: cs) = false := rfl
    have hword : isWord (singleQuote :: cs) = false := rfl
    have hother : isBetween doubleQuote isNotLineFeed (singleQuote :: cs) = false := by
      cases cs <;> rfl
    show isConstant (singleQuote :: cs) = _
    rw [isConstant, hnumeric, hword, hother, Bool.false_or, Bool.false_or, Bool.or_false]
    rfl

/-- an option takes the literals that stand on one line -/
theorem isConstant_iff {piece : List Char}
    (h : IsLiteral Lexeme.doubleQuote piece ∨ IsLiteral Lexeme.singleQuote piece) :
    isConstant piece = true ↔ '\n' ∉ piece := by
  have hquoted : ∃ quote body, (quote = Lexeme.doubleQuote ∨ quote = Lexeme.singleQuote) ∧
      piece = quote :: (body ++ [quote]) := by
    obtain ⟨body, hpiece, -⟩ | ⟨body, hpiece, -⟩ := h
    · exact ⟨_, body, .inl rfl, hpiece⟩
    · exact ⟨_, body, .inr rfl, hpiece⟩
  obtain ⟨quote, body, hquote, rfl⟩ := hquoted
  have hfeed : quote ≠ '\n' := by rcases hquote with rfl | rfl <;> decide
  rw [isConstant_cons hquote, isBetween_iff]
  constructor
  · intro hall hmem
    obtain h | h := List.mem_append.mp (List.mem_of_ne_of_mem hfeed.symm hmem)
    · exact absurd (hall _ h) (by decide)
    · exact hfeed (List.mem_singleton.mp h).symm
  · intro hnot c hc
    refine bne_iff_ne.mpr ?_
    rintro rfl
    exact hnot (List.mem_cons_of_mem _ (List.mem_append_left _ hc))

/-! ### options that are refused -/

variable {name w : String}

theorem refuses_optionValue (h : isLiteral w.toList = true)
    (hconstant : isConstant w.toList = false) :
    Refuses optionValue [] w (.expected .constant w) := by
  unfold optionValue
  refine reads_peek.bind_nil_refuses fun v hv => ?_
  rw [hv, List.headD_nil, if_neg (by simpa using ne_of_isLiteral h (by decide))]
  exact (refuses_token _ hconstant).bind

theorem refuses_setting (hname : IsOptionName name) (h : isLiteral w.toList = true)
    (hconstant : isConstant w.toList = false) :
    Refuses setting (optionNameWords name ++ ["="]) w (.expected .constant w) := by
  refine Reads.bind_refuses (reads_optionName hname) fun _ _ => ?_
  refine Reads.bind_cons_refuses (reads_mark "=") fun _ _ => ?_
  exact (refuses_optionValue h hconstant).bind

theorem refuses_declaration_option (hname : IsOptionName name) (h : isLiteral w.toList = true)
    (hconstant : isConstant w.toList = false) (f : File) :
    Refuses (declaration f) ("option" :: (optionNameWords name ++ ["="])) w
      (.expected .constant w) := by
  refine refuses_after ((fun s => { f with options := f.options ++ [s] }) <$> optionStatement)
    (fun t ts ht => ?_) (refuses_setting hname h hconstant).bind.map
  simp only [declaration, ht]
  rfl

theorem refuses_member_option (hname : IsOptionName name) (h : isLiteral w.toList = true)
    (hconstant : isConstant w.toList = false) (m : Message) :
    Refuses (member m) ("option" :: (optionNameWords name ++ ["="])) w (.expected .constant w) := by
  refine refuses_after (m.withOption <$> optionStatement) (fun t ts ht => ?_)
    (refuses_setting hname h hconstant).bind.map
  simp only [member, ht]
  rfl

/-- the words of the options of a field up to the value of one more, which is called `name` -/
def Spelled.openWords (name : String) : List Spelled → List String
  | [] => "[" :: (optionNameWords name ++ ["="])
  | p :: ps => "[" :: (p.words ++ (ps.flatMap (fun p => "," :: p.words) ++
      "," :: (optionNameWords name ++ ["="])))

theorem refuses_settings {ps : List Spelled} (hps : ∀ p ∈ ps, p.Fits) (hname : IsOptionName name)
    (h : isLiteral w.toList = true) (hconstant : isConstant w.toList = false) :
    Refuses settings (Spelled.openWords name ps) w (.expected .constant w) := by
  have hsetting := refuses_setting hname h hconstant
  unfold settings
  cases ps with
  | nil =>
    refine (reads_skips "[").bind_cons_refuses fun b hb => ?_
    rw [hb]
    exact hsetting.bind
  | cons p ps =>
    refine (reads_skips "[").bind_cons_refuses fun b hb => ?_
    rw [hb]
    refine (reads_setting_spelled (hps p List.mem_cons_self)).bind_refuses fun s _ => ?_
    refine steps_foldUntil_refuses.items (fun _ _ => True)
      (fun q _ => ⟨",", q.words, rfl, by decide⟩) (fun q hq _ before next _ => ?_) trivial
      fun before _ => ?_
    · exact (reads_nextSetting (hps q (List.mem_cons_of_mem _ hq)) before).mono fun _ _ => trivial
    · exact refuses_foldUntil (by decide)
        ((reads_mark ",").bind_cons_refuses fun _ _ => hsetting.bind)

end Grammar

/-! ### all places -/

open Reader Grammar

/-- A token that begins with a quote is taken as the dialect and as the path of an import, and what
it spells is stored there.  If it stands on one line, it is taken as the value of an option of a
file, of a message, and of a field with other options in front and behind, and the same string is
stored.  If a line feed stands in it, it is refused in these three places, and nowhere else. -/
theorem Tokens.literal_places {text : String} {ts : Tokens} {t : Token}
    (hscan : scan text = .ok ts) (ht : t ∈ ts.list) (hquoted : t.IsQuoted) :
    (∀ keyword ∈ ["syntax", "edition"], ∀ f next,
      Reads next (declaration f) [keyword, "=", t.text, ";"]
        (· = { f with dialect := some (literalText t.text) })) ∧
    (∀ (k : ImportKind) f next,
      Reads next (declaration f) ("import" :: (k.words ++ [t.text, ";"]))
        (· = { f with imports := f.imports ++ [⟨literalText t.text, k⟩] })) ∧
    ('\n' ∉ t.text.toList → ∀ name, IsOptionName name →
      (∀ f next,
        Reads next (declaration f) ("option" :: (optionNameWords name ++ ["=", t.text, ";"]))
          (· = { f with options := f.options ++ [⟨name, literalText t.text⟩] })) ∧
      (∀ m next, Reads next (member m) ("option" :: (optionNameWords name ++ ["=", t.text, ";"]))
        (· = m.withOption ⟨name, literalText t.text⟩)) ∧
      ∀ front back : List Spelled, (∀ p ∈ front ++ back, p.Fits) →
        Reads ";" settings (Spelled.fieldWords (front ++ ⟨name, t.text⟩ :: back))
          (· = front.map (·.setting) ++ ⟨name, literalText t.text⟩ :: back.map (·.setting))) ∧
    ('\n' ∈ t.text.toList → ∀ name, IsOptionName name →
      (∀ f, Refuses (declaration f) ("option" :: (optionNameWords name ++ ["="])) t.text
        (.expected .constant t.text)) ∧
      (∀ m, Refuses (member m) ("option" :: (optionNameWords name ++ ["="])) t.text
        (.expected .constant t.text)) ∧
      ∀ front : List Spelled, (∀ p ∈ front, p.Fits) →
        Refuses settings (Spelled.openWords name front) t.text (.expected .constant t.text)) := by
  have hshape := isLiteral_of_isQuoted hscan ht hquoted
  have hliteral := isLiteral_of_literal hshape
  refine ⟨fun keyword hkeyword f next => reads_declaration_dialect_spelled f hkeyword hliteral,
    fun k f next => reads_declaration_import_spelled f hliteral k,
    fun hfeed name hname => ?_, fun hfeed name hname => ?_⟩
  · have hfits : Spelled.Fits ⟨name, t.text⟩ :=
      ⟨hname, hliteral, (isConstant_iff hshape).mpr hfeed⟩
    have hwords : optionNameWords name ++ ["=", t.text, ";"] =
        Spelled.words ⟨name, t.text⟩ ++ [";"] := by rw [Spelled.words, List.append_assoc]; rfl
    rw [hwords]
    refine ⟨fun f next => reads_declaration_option_spelled f hfits,
      fun m next => reads_member_option_spelled hfits m, fun front back hothers => ?_⟩
    have hall : ∀ p ∈ front ++ ⟨name, t.text⟩ :: back, p.Fits := by
      intro p hp
      obtain hp | hp := List.mem_append.mp hp
      · exact hothers p (List.mem_append_left _ hp)
      · obtain rfl | hp := List.mem_cons.mp hp
        · exact hfits
        · exact hothers p (List.mem_append_right _ hp)
    refine (reads_settings_spelled hall).mono fun ss hss => ?_
    rw [hss, List.map_append]
    rfl
  · have hconstant : isConstant t.text.toList = false :=
      Bool.eq_false_iff.mpr fun h => (isConstant_iff hshape).mp h hfeed
    exact ⟨refuses_declaration_option hname hliteral hconstant,
      refuses_member_option hname hliteral hconstant,
      fun front hfront => refuses_settings hfront hname hliteral hconstant⟩

/-- a literal in single quotes with a quote, an escape and a backslash before a line feed in it -/
theorem Tokens.literal_places_broken :
    let w := "'a\"b\\t\\\n'"
    ∃ ts t, scan w = .ok ts ∧ t ∈ ts.list ∧ t.IsQuoted ∧ t.text = w ∧
      (∀ f next, Reads next (declaration f) ["syntax", "=", t.text, ";"]
        (· = { f with dialect := some "a\"b\t\n" })) ∧
      (∀ f, Refuses (declaration f) ["option", "java_package", "="] t.text
        (.expected .constant t.text)) := by
  intro w
  have hscan : scan w = .ok ⟨[⟨w, ⟨1, 1⟩⟩], ⟨2, 2⟩⟩ := by decide +kernel
  have ht : (⟨w, ⟨1, 1⟩⟩ : Token) ∈ [(⟨w, ⟨1, 1⟩⟩ : Token)] := List.mem_singleton_self _
  have hquoted : (⟨w, ⟨1, 1⟩⟩ : Token).IsQuoted := .inr (by decide)
  obtain ⟨hdialect, -, -, hrefused⟩ := literal_places hscan ht hquoted
  refine ⟨_, _, hscan, ht, hquoted, rfl, fun f next => ?_, ?_⟩
  · have hspelled : literalText w = "a\"b\t\n" := by decide +kernel
    rw [← hspelled]
    exact hdialect "syntax" (by decide) f next
  · exact (hrefused (by decide +kernel) "java_package" (.inl (by decide +kernel))).1

/-- One literal, with a backslash before a line feed: as the dialect it is stored, as the value of
an option it is refused. -/
theorem Tokens.literal_refused :
    scan "\"x\\\ny\"" = .ok ⟨[⟨"\"x\\\ny\"", ⟨1, 1⟩⟩], ⟨2, 3⟩⟩ ∧
    (⟨"\"x\\\ny\"", ⟨1, 1⟩⟩ : Token).IsQuoted ∧
    File.compile "a.proto" "syntax = \"x\\\ny\";" =
      .ok ⟨"a.proto", some "x\ny", none, [], [], [], []⟩ ∧
    File.compile "a.proto" "option a = \"x\\\ny\";" =
      .error ⟨.expected .constant "\"x\\\ny\"", ⟨1, 12⟩⟩ :=
  ⟨by decide +kernel, .inl (by decide), by decide +kernel, by decide +kernel⟩

end EnvConfig
