import EnvConfig.Proofs.Printing.Phrases

/-!
# Reading printed declarations

* `reads_message`, `reads_enum`: a message or enum is read as it was, up to positions;
* `File.ofTokens_of_words`: so is a file.
-/

namespace EnvConfig

namespace Grammar

open Reader Text

variable {next : String}

/-! ### messages -/

/-- the words of a field after its label begin with a name, of its type or `map` -/
theorem exists_labelledWords_cons {f : Field} (h : f.Printable) :
    ∃ w ws, f.labelledWords = w :: ws ∧ isTypeName w.toList = true ∧
      (w = "option" → f.type = .named "option") := by
  have htype := h.type
  unfold Field.labelledWords
  cases ht : f.type with
  | named name =>
    rw [ht] at htype
    exact ⟨name, _, rfl, htype, fun he => by rw [he]⟩
  | map key value => exact ⟨"map", _, rfl, by decide, fun he => absurd he (by decide)⟩

theorem reads_alternative {f : Field} (h : f.Printable) {group : String}
    (hlabel : f.label = .oneof group) (fs : List Field) :
    Reads next (alternative group fs) f.labelledWords
      fun gs => ∃ g, gs = fs ++ [g] ∧ g.unplaced = f.unplaced := by
  have hlabelled := @reads_labelled next f h
  have hsuits := h.label
  rw [hlabel] at hlabelled hsuits
  obtain ⟨w, ws, hwords, hw, hoption⟩ := exists_labelledWords_cons h
  rw [hwords] at hlabelled ⊢
  unfold alternative
  refine Reads.bind_nil (reads_skips_of_ne fun he => hsuits.2 (hoption he)) fun b hb => ?_
  rw [hb]
  refine Reads.bind_nil (reads_skips_of_ne (ne_of_isTypeName hw (by decide))) fun b hb => ?_
  rw [hb, ← List.append_nil (w :: ws)]
  exact Reads.bind hlabelled fun g hg => reads_pure ⟨g, rfl, hg⟩

theorem reads_oneof {f : Field} (h : f.Printable) {group : String}
    (hlabel : f.label = .oneof group) :
    Reads next oneof (group :: opening :: (f.labelledWords ++ [closing]))
      fun gs => ∃ g, gs = [g] ∧ g.unplaced = f.unplaced := by
  have hsuits := h.label
  rw [hlabel] at hsuits
  unfold oneof
  refine Reads.bind_cons (reads_token hsuits.1) fun t ht => ?_
  refine Reads.bind_cons (reads_mark opening) fun _ _ => ?_
  subst ht
  obtain ⟨w, ws, hwords, hw, -⟩ := exists_labelledWords_cons h
  have halternative := fun next => @reads_alternative next f h _ hlabel []
  rw [hwords] at halternative ⊢
  exact steps_foldUntil next _ [] w ws [closing] _ (ne_of_isTypeName hw (by decide)) halternative
    fun gs hgs => reads_foldUntil_close hgs

theorem reads_member_option_spelled {p : Spelled} (h : p.Fits) (m : Message) :
    Reads next (member m) ("option" :: (p.words ++ [";"])) (· = m.withOption p.setting) := by
  refine reads_after (m.withOption <$> optionStatement) (fun t ts ht => ?_)
    (Reads.map (reads_optionStatement_spelled h) fun s hs => congrArg m.withOption hs)
  simp only [member, ht]
  rfl

theorem reads_member_option {s : Setting} (h : IsOptionName s.name) (m : Message) :
    Reads next (member m) s.statementWords (· = m.withOption s) := by
  refine (reads_member_option_spelled (Spelled.fits_ofSetting h) m).mono ?_
  rintro g rfl
  rw [Spelled.setting_ofSetting]

theorem reads_member_field {f : Field} (h : f.Printable) (m : Message) :
    Reads next (member m) f.words
      fun m' => ∃ g, m' = m.withFields [g] ∧ g.unplaced = f.unplaced := by
  have hfield : ∀ w ws, f.words = w :: ws → (∀ group, f.label ≠ .oneof group) →
      w = "required" ∨ w = "optional" ∨ w = "repeated" →
      Reads next (member m) f.words
        fun m' => ∃ g, m' = m.withFields [g] ∧ g.unplaced = f.unplaced := by
    intro w ws hwords hlabel hw
    have hreads := Reads.map (R := fun m' => ∃ g, m' = m.withFields [g] ∧ g.unplaced = f.unplaced)
      (f := fun g => m.withFields [g]) (@reads_field next f h hlabel) fun g hg => ⟨g, rfl, hg⟩
    rw [hwords] at hreads ⊢
    refine reads_before _ (fun t ts ht => ?_) hreads
    rcases hw with rfl | rfl | rfl <;> (simp only [member, ht]; rfl)
  cases hl : f.label with
  | plain => exact hfield "required" _ (by rw [Field.words, hl]) (by simp [hl]) (.inl rfl)
  | optional =>
    exact hfield "optional" _ (by rw [Field.words, hl]) (by simp [hl]) (.inr (.inl rfl))
  | repeated =>
    exact hfield "repeated" _ (by rw [Field.words, hl]) (by simp [hl]) (.inr (.inr rfl))
  | oneof group =>
    rw [Field.words, hl]
    refine reads_after (m.withFields <$> oneof) (fun t ts ht => ?_)
      (Reads.map (reads_oneof h hl) ?_)
    · simp only [member, ht]
      rfl
    · rintro gs ⟨g, rfl, hg⟩
      exact ⟨g, rfl, hg⟩

theorem exists_words_cons (f : Field) : ∃ w ws, f.words = w :: ws ∧ w ≠ closing := by
  unfold Field.words
  cases f.label with
  | plain => exact ⟨_, _, rfl, by decide⟩
  | optional => exact ⟨_, _, rfl, by decide⟩
  | repeated => exact ⟨_, _, rfl, by decide⟩
  | oneof group => exact ⟨_, _, rfl, by decide⟩

theorem reads_message {m : Message} (h : m.Printable) :
    Reads next message m.words.tail (·.unplaced = m.unplaced) := by
  refine Reads.bind_cons (reads_token h.name) fun t ht => ?_
  refine Reads.bind_cons (reads_mark opening) fun _ _ => ?_
  have hsteps := @steps_foldUntil _ member takes_member closing next (·.unplaced = m.unplaced)
  refine hsteps.items (fun done m' => m' = ⟨t.text, t.position, [], done, .all⟩)
    (fun s _ => ⟨_, _, rfl, by decide⟩) ?_ rfl ?_
  · rintro s hs done _ next rfl
    exact reads_member_option (h.options s hs) _
  rintro _ rfl
  let bare : Message := ⟨m.name, .start, [], m.options, .all⟩
  refine hsteps.items (fun done m' => m'.unplaced = bare.withFields (done.map Field.unplaced))
    (fun f _ => exists_words_cons f) ?_ (by rw [ht]; rfl) ?_
  · rintro f hf done m' next hm'
    refine (reads_member_field (h.fields f hf) m').mono ?_
    rintro _ ⟨g, rfl, hg⟩
    have hmore : (m'.withFields [g]).unplaced = m'.unplaced.withFields [g.unplaced] := by
      simp [Message.unplaced, Message.withFields]
    rw [hmore, hm', hg]
    simp [Message.withFields]
  · rintro m' hm'
    refine reads_foldUntil_close ?_
    rw [hm', Message.unplaced, h.targets]
    rfl

/-! ### enums -/

theorem reads_symbol {s : Symbol} (h : s.Printable) : Reads next symbol s.words (· = s) := by
  refine Reads.bind_cons (reads_token h.name) fun t ht => ?_
  refine Reads.bind_cons (reads_mark "=") fun _ _ => ?_
  refine Reads.bind_cons (reads_integer _ s.number) fun n hn => ?_
  refine Reads.bind_nil (@reads_settings [] (by simp)) fun _ _ => ?_
  refine Reads.bind_cons (reads_mark ";") fun _ _ => reads_pure ?_
  rw [ht, hn]

theorem reads_enumItem {s : Symbol} (h : s.Printable) (e : Enum) :
    Reads next (enumItem e) s.words (· = e.withSymbol s) := by
  have hmark : s.name ≠ ";" := ne_of_isTypeName (isTypeName_of_isIdentifier h.name) (by decide)
  refine reads_before (e.withSymbol <$> symbol) (fun t ts ht => ?_)
    (Reads.map (reads_symbol h) fun s' hs' => congrArg e.withSymbol hs')
  simp [enumItem, ht, hmark, h.notOption, h.notReserved]

theorem reads_enum {e : Enum} (h : e.Printable) :
    Reads next enum e.words.tail (·.unplaced = e.unplaced) := by
  refine Reads.bind_cons (reads_token h.name) fun t ht => ?_
  refine Reads.bind_cons (reads_mark opening) fun _ _ => ?_
  have hsteps := @steps_foldUntil _ enumItem takes_enumItem closing next
    (·.unplaced = e.unplaced)
  refine hsteps.items (fun done e' => e' = ⟨t.text, t.position, done⟩)
    (fun s hs => ⟨_, _, rfl, ?_⟩) ?_ rfl ?_
  · exact ne_of_isTypeName (isTypeName_of_isIdentifier (h.symbols s hs).name) (by decide)
  · rintro s hs done _ next rfl
    exact reads_enumItem (h.symbols s hs) _
  · rintro _ rfl
    refine reads_foldUntil_close ?_
    rw [Enum.unplaced, Enum.unplaced, ht]

/-! ### files -/

theorem reads_dialect {w : String} (h : isLiteral w.toList = true) :
    Reads next dialect ["=", w, ";"] (· = literalText w) := by
  refine Reads.bind_cons (reads_mark "=") fun _ _ => ?_
  refine Reads.bind_cons (reads_literal_spelled _ h) fun s hs => ?_
  exact Reads.bind_cons (reads_mark ";") fun _ _ => reads_pure hs

theorem reads_package {p : String} (h : isDotted p.toList = true) :
    Reads next package (packageWords p).tail (· = p) := by
  refine Reads.bind_cons (reads_token (isTypeName_of_isDotted h)) fun t ht => ?_
  refine Reads.bind_cons (reads_mark ";") fun _ _ => reads_pure ?_
  rw [ht, dropWhile_dot_of_isDotted h, String.ofList_toList]

theorem reads_importKind {w : String} (h : isLiteral w.toList = true) (k : ImportKind) :
    Reads w importKind k.words (· = k) := by
  unfold importKind
  cases k with
  | ordinary =>
    refine Reads.bind_nil (reads_skips_of_ne (ne_of_isLiteral h (by decide))) fun b hb => ?_
    rw [hb]
    refine Reads.bind_nil (reads_skips_of_ne (ne_of_isLiteral h (by decide))) fun b hb => ?_
    rw [hb]
    exact reads_pure rfl
  | reexported =>
    refine Reads.bind_cons (reads_skips "public") fun b hb => ?_
    rw [hb]
    exact reads_pure rfl
  | weak =>
    refine Reads.bind_nil (reads_skips_of_ne (show "weak" ≠ "public" by decide)) fun b hb => ?_
    rw [hb]
    refine Reads.bind_cons (reads_skips "weak") fun b hb => ?_
    rw [hb]
    exact reads_pure rfl

theorem reads_importStatement {w : String} (h : isLiteral w.toList = true) (k : ImportKind) :
    Reads next importStatement (k.words ++ [w, ";"]) (· = ⟨literalText w, k⟩) := by
  refine Reads.bind (reads_importKind h k) fun k' hk => ?_
  refine Reads.bind_cons (reads_literal_spelled _ h) fun path hpath => ?_
  refine Reads.bind_cons (reads_mark ";") fun _ _ => reads_pure ?_
  rw [hk, hpath]

section

variable (f : File)

theorem reads_declaration_dialect_spelled {keyword w : String}
    (hkeyword : keyword ∈ ["syntax", "edition"]) (h : isLiteral w.toList = true) :
    Reads next (declaration f) [keyword, "=", w, ";"]
      (· = { f with dialect := some (literalText w) }) := by
  refine reads_after ((fun s => { f with dialect := some s }) <$> dialect) (fun t ts ht => ?_)
    (Reads.map (reads_dialect h) fun s hs => by rw [hs])
  rw [List.mem_pair] at hkeyword
  rcases hkeyword with rfl | rfl
  all_goals
    simp only [declaration, ht]
    rfl

theorem reads_declaration_dialect (s : String) :
    Reads next (declaration f) (dialectWords s) (· = { f with dialect := some s }) := by
  refine (reads_declaration_dialect_spelled f (by simp) (isLiteral_literalWord s)).mono ?_
  rintro g rfl
  rw [literalText_literalWord]

theorem reads_declaration_package {p : String} (hf : f.package = none)
    (h : isDotted p.toList = true) :
    Reads next (declaration f) (packageWords p) (· = { f with package := some p }) := by
  refine reads_after ((fun p => { f with package := some p }) <$> package) (fun t ts ht => ?_)
    (Reads.map (reads_package h) fun p' hp' => by rw [hp'])
  simp only [declaration, ht, hf]
  rfl

theorem reads_declaration_import_spelled {w : String} (h : isLiteral w.toList = true)
    (k : ImportKind) : Reads next (declaration f) ("import" :: (k.words ++ [w, ";"]))
      (· = { f with imports := f.imports ++ [⟨literalText w, k⟩] }) := by
  refine reads_after ((fun i => { f with imports := f.imports ++ [i] }) <$> importStatement)
    (fun t ts ht => ?_) (Reads.map (reads_importStatement h k) fun i hi => by rw [hi])
  simp only [declaration, ht]
  rfl

theorem reads_declaration_import (i : Import) :
    Reads next (declaration f) i.words (· = { f with imports := f.imports ++ [i] }) := by
  refine (reads_declaration_import_spelled f (isLiteral_literalWord i.path) i.kind).mono ?_
  rintro g rfl
  rw [literalText_literalWord]

theorem reads_declaration_option_spelled {p : Spelled} (h : p.Fits) :
    Reads next (declaration f) ("option" :: (p.words ++ [";"]))
      (· = { f with options := f.options ++ [p.setting] }) := by
  refine reads_after ((fun s => { f with options := f.options ++ [s] }) <$> optionStatement)
    (fun t ts ht => ?_) (Reads.map (reads_optionStatement_spelled h) fun s hs => by rw [hs])
  simp only [declaration, ht]
  rfl

theorem reads_declaration_option {s : Setting} (h : IsOptionName s.name) :
    Reads next (declaration f) s.statementWords (· = { f with options := f.options ++ [s] }) := by
  refine (reads_declaration_option_spelled f (Spelled.fits_ofSetting h)).mono ?_
  rintro g rfl
  rw [Spelled.setting_ofSetting]

theorem reads_declaration_message {m : Message} (h : m.Printable) :
    Reads next (declaration f) m.words fun g =>
      ∃ m', g = { f with messages := f.messages ++ [m'] } ∧ m'.unplaced = m.unplaced := by
  refine reads_after ((fun m => { f with messages := f.messages ++ [m] }) <$> message)
    (fun t ts ht => ?_) (Reads.map (reads_message h) fun m' hm' => ⟨m', rfl, hm'⟩)
  simp only [declaration, ht]
  rfl

theorem reads_declaration_enum {e : Enum} (h : e.Printable) :
    Reads next (declaration f) e.words fun g =>
      ∃ e', g = { f with enums := f.enums ++ [e'] } ∧ e'.unplaced = e.unplaced := by
  refine reads_after ((fun e => { f with enums := f.enums ++ [e] }) <$> enum)
    (fun t ts ht => ?_) (Reads.map (reads_enum h) fun e' he' => ⟨e', rfl, he'⟩)
  simp only [declaration, ht]
  rfl

end

theorem readsAll_words {f : File} (h : f.Printable) :
    ReadsAll declaration takes_declaration (·.unplaced = { f.unplaced with name := "" })
      (.empty "") f.words := by
  have hsteps := @steps_foldAll _ declaration takes_declaration
    (·.unplaced = { f.unplaced with name := "" })
  unfold File.words
  -- kind by kind in the order of the text: the state holds the kinds before, and a part of this one
  refine hsteps.option ⟨"", f.dialect, none, [], [], [], []⟩ (fun s _ => ⟨_, _, rfl, trivial⟩)
    (fun hs => by rw [hs]; rfl) (fun s hs next => ?_) ?_
  · rw [hs]
    exact reads_declaration_dialect _ s
  refine hsteps.option ⟨"", f.dialect, f.package, [], [], [], []⟩
    (fun p _ => ⟨_, _, rfl, trivial⟩) (fun hp => by rw [hp]) (fun p hp next => ?_) ?_
  · rw [hp]
    exact reads_declaration_package _ rfl (h.package p hp)
  refine hsteps.items (fun done g => g = ⟨"", f.dialect, f.package, done, [], [], []⟩)
    (fun i _ => ⟨_, _, rfl, trivial⟩) ?_ rfl ?_
  · rintro i _ done _ next rfl
    exact reads_declaration_import _ i
  rintro _ rfl
  refine hsteps.items (fun done g => g = ⟨"", f.dialect, f.package, f.imports, done, [], []⟩)
    (fun s _ => ⟨_, _, rfl, trivial⟩) ?_ rfl ?_
  · rintro s hs done _ next rfl
    exact reads_declaration_option _ (h.options s hs)
  rintro _ rfl
  refine hsteps.items (fun done g => g.unplaced = ⟨"", f.dialect, f.package, f.imports, f.options,
    done.map Message.unplaced, []⟩) (fun m _ => ⟨_, _, rfl, trivial⟩) ?_ rfl ?_
  · rintro m hm done g next hg
    refine (reads_declaration_message g (h.messages m hm)).mono ?_
    rintro _ ⟨m', rfl, hm'⟩
    have hmore : File.unplaced { g with messages := g.messages ++ [m'] } =
        { g.unplaced with messages := g.unplaced.messages ++ [m'.unplaced] } := by
      simp [File.unplaced]
    rw [hmore, hg, hm', List.map_append]
    rfl
  intro g hg
  rw [← List.append_nil (f.enums.flatMap Enum.words)]
  refine hsteps.items (fun done g => g.unplaced = ⟨"", f.dialect, f.package, f.imports, f.options,
    f.messages.map Message.unplaced, done.map Enum.unplaced⟩)
    (fun e _ => ⟨_, _, rfl, trivial⟩) ?_ hg ?_
  · rintro e he done g next hg
    refine (reads_declaration_enum g (h.enums e he)).mono ?_
    rintro _ ⟨e', rfl, he'⟩
    have hmore : File.unplaced { g with enums := g.enums ++ [e'] } =
        { g.unplaced with enums := g.unplaced.enums ++ [e'.unplaced] } := by
      simp [File.unplaced]
    rw [hmore, hg, he', List.map_append]
    rfl
  · intro g hg
    exact readsAll_nil hg

end Grammar

/-- tokens with the words of a file declare that file, up to positions -/
theorem File.ofTokens_of_words {f : File} (h : f.Printable) {ts : Tokens}
    (hts : ts.list.map (·.text) = f.words) :
    ∃ g, File.ofTokens f.name ts = .ok g ∧ g.unplaced = f.unplaced := by
  obtain ⟨g, hg, hunplaced⟩ := Grammar.readsAll_words h ts.list hts
  refine ⟨{ g with name := f.name }, ?_, ?_⟩
  · rw [File.ofTokens, File.contents, hg]
    rfl
  · show { g.unplaced with name := f.name } = f.unplaced
    rw [hunplaced]
    rfl

end EnvConfig
