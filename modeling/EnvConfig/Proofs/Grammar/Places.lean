import EnvConfig.Proofs.Grammar.Alike
import EnvConfig.Proofs.Lexical.Respacing
import EnvConfig.Proofs.Printing.RoundTrip

/-!
# Declarations do not depend on places

Every phrase and declaration is read alike from two lists of tokens with the same texts.  Names are
put into messages, fields and enums with their positions, which `unplaced` leaves out; the other
phrases hold no positions.

* `alike_setting`, `alike_field`, …: the phrases;
* `alike_member`, `alike_declaration`, …: the items of bodies and of files;
* `File.sameOutcome_contents`: the declarations of two such lists;
* `File.compile_respaced`: a text with other spacing between its tokens.
-/

namespace EnvConfig

namespace Grammar

open Reader Text

/-! ### phrases -/

theorem alike_identifier (what : Expectation) :
    Alike Token.text (identifier what) (identifier what) := alike_token _ _

theorem alike_typeName (what : Expectation) : Alike Token.text (typeName what) (typeName what) :=
  alike_token _ _

theorem alike_literal (what : Expectation) : Alike id (literal what) (literal what) :=
  (alike_token _ _).bind fun _ _ htext => alike_pure (congrArg literalText htext)

theorem alike_integer (what : Expectation) : Alike id (integer what) (integer what) := by
  refine (alike_token _ _).bind fun t u htext => ?_
  rw [htext]
  cases (Number.literal? u.text.toList).bind Number.toInt32? with
  | some n => exact alike_pure rfl
  | none => exact fun _ _ _ => .refused rfl

theorem alike_suffix : Alike id suffix suffix := by
  refine .of_cases (.of_pair rfl rfl) fun t u ts us htext hrest => ?_
  simp only [suffix, htext]
  split
  · exact .of_pair rfl hrest
  · exact .of_pair rfl (hrest.cons htext)

theorem alike_optionName : Alike id optionName optionName := by
  refine (alike_skips _).bind_same fun _ => .ite ?_ ?_
  · refine (alike_typeName _).bind fun inner inner' htext => ?_
    rw [htext]
    exact (alike_mark _).bind_same fun _ => alike_suffix.bind_same fun _ => alike_pure rfl
  · exact (alike_typeName _).bind fun _ _ htext => alike_pure htext

theorem alike_optionValue : Alike id optionValue optionValue := by
  refine alike_peek.bind_same fun _ => .ite ?_ ?_
  · exact alike_skipBlock.bind_same fun _ => alike_pure rfl
  · refine (alike_token _ _).bind fun t u htext => ?_
    rw [htext]
    exact alike_pure rfl

theorem alike_setting : Alike id setting setting :=
  alike_optionName.bind_same fun _ => (alike_mark _).bind_same fun _ =>
    alike_optionValue.bind_same fun _ => alike_pure rfl

theorem alike_optionStatement : Alike id optionStatement optionStatement :=
  alike_setting.bind_same fun _ => (alike_mark _).bind_same fun _ => alike_pure rfl

theorem alike_nextSetting (before : List Setting) :
    Alike id (nextSetting before) (nextSetting before) :=
  (alike_mark _).bind_same fun _ => alike_setting.bind_same fun _ => alike_pure rfl

theorem alike_settings : Alike id settings settings := by
  refine (alike_skips _).bind_same fun _ => .ite ?_ (alike_pure rfl)
  refine alike_setting.bind_same fun _ => alike_foldUntil ?_ rfl
  rintro ss _ rfl
  exact alike_nextSetting ss

/-! ### fields -/

theorem alike_mapOpening : Alike id mapOpening mapOpening := by
  refine .of_cases (.of_pair rfl rfl) fun t t' ts ts' ht hts => ?_
  cases ts with
  | nil =>
    rw [hts.eq_nil]
    exact .of_pair rfl (SameTexts.cons ht rfl)
  | cons u us =>
    obtain ⟨u', us', rfl, hu, hus⟩ := hts.exists_cons
    simp only [mapOpening, ht, hu]
    split
    · exact .of_pair rfl hus
    · exact .of_pair rfl (hts.cons ht)

theorem alike_fieldType : Alike id fieldType fieldType := by
  refine alike_mapOpening.bind_same fun _ => .ite ?_ ?_
  · refine (alike_typeName _).bind fun key key' hkey => (alike_mark _).bind_same fun _ => ?_
    refine (alike_typeName _).bind fun value value' hvalue => (alike_mark _).bind_same fun _ => ?_
    rw [hkey, hvalue]
    exact alike_pure rfl
  · exact (alike_typeName _).bind fun _ _ htext => alike_pure (congrArg FieldType.named htext)

theorem alike_label : Alike id label label := by
  refine (alike_skips _).bind_same fun _ => .ite (alike_pure rfl) ?_
  refine (alike_skips _).bind_same fun _ => .ite (alike_pure rfl) ?_
  exact (alike_skips _).bind_same fun _ => alike_pure rfl

theorem alike_labelled (l : Label) : Alike Field.unplaced (labelled l) (labelled l) := by
  refine alike_fieldType.bind_same fun _ => (alike_identifier _).bind fun name name' hname => ?_
  refine (alike_mark _).bind_same fun _ => (alike_integer _).bind_same fun _ => ?_
  refine alike_settings.bind_same fun _ => (alike_mark _).bind_same fun _ => ?_
  rw [hname]
  exact alike_pure rfl

theorem alike_field : Alike Field.unplaced field field := alike_label.bind_same alike_labelled

theorem alike_passedOver (what : Expectation) : Alike id (passedOver what) (passedOver what) :=
  (alike_typeName _).bind fun _ _ _ => alike_skipBlock

/-! ### messages -/

theorem alike_alternative (group : String) {fs gs : List Field}
    (h : fs.map Field.unplaced = gs.map Field.unplaced) :
    Alike (List.map Field.unplaced) (alternative group fs) (alternative group gs) := by
  refine (alike_skips _).bind_same fun _ => .ite ?_ ?_
  · exact alike_optionStatement.bind_same fun _ => alike_pure h
  · refine (alike_skips _).bind_same fun _ => .ite (alike_pure h) ?_
    refine (alike_labelled _).bind fun f g hfield => alike_pure ?_
    rw [List.map_append, List.map_append, h, List.map_singleton, List.map_singleton, hfield]

theorem alike_oneof : Alike (List.map Field.unplaced) oneof oneof := by
  refine (alike_identifier _).bind fun group group' hgroup => (alike_mark _).bind_same fun _ => ?_
  refine alike_foldUntil (fun fs gs h => ?_) rfl
  rw [hgroup]
  exact alike_alternative group'.text h

theorem Message.unplaced_withFields (m : Message) (fs : List Field) :
    (m.withFields fs).unplaced = m.unplaced.withFields (fs.map Field.unplaced) := by
  simp [Message.withFields, Message.unplaced]

/-- an item of two messages that differ in positions only -/
theorem alike_member {m n : Message} (h : m.unplaced = n.unplaced) :
    Alike Message.unplaced (member m) (member n) := by
  refine .of_cases (.refused rfl) fun t u ts us htext hrest => ?_
  simp only [member, htext, hrest.headText_eq]
  refine .ite (.of_pair h hrest) (.ite ?_ (.ite ?_ (.ite ?_ (.ite ?_ (.ite (.refused rfl) ?_)))))
  · refine alike_optionStatement.map_same (fun s => ?_) _ _ hrest
    exact congrArg (Message.withOption · s) h
  · exact alike_skipStatement.map_same (fun _ => h) _ _ hrest
  · exact (alike_passedOver _).map_same (fun _ => h) _ _ hrest
  · refine alike_oneof.map (fun fs gs hfields => ?_) _ _ hrest
    rw [Message.unplaced_withFields, Message.unplaced_withFields, h, hfields]
  · refine alike_field.map (fun f g hfield => ?_) _ _ (hrest.cons htext)
    rw [Message.unplaced_withFields, Message.unplaced_withFields, h, List.map_singleton,
      List.map_singleton, hfield]

theorem alike_message : Alike Message.unplaced message message := by
  refine (alike_identifier _).bind fun name name' hname => (alike_mark _).bind_same fun _ => ?_
  refine alike_foldUntil (fun _ _ => alike_member) ?_
  rw [hname]
  rfl

/-! ### enums -/

theorem alike_symbol : Alike id symbol symbol := by
  refine (alike_identifier _).bind fun name name' hname => (alike_mark _).bind_same fun _ => ?_
  refine (alike_integer _).bind_same fun _ => alike_settings.bind_same fun _ => ?_
  rw [hname]
  exact (alike_mark _).bind_same fun _ => alike_pure rfl

theorem alike_enumItem {d e : Enum} (h : d.unplaced = e.unplaced) :
    Alike Enum.unplaced (enumItem d) (enumItem e) := by
  have hsymbol : Alike Enum.unplaced (d.withSymbol <$> symbol) (e.withSymbol <$> symbol) :=
    alike_symbol.map_same fun s => congrArg (Enum.withSymbol · s) h
  refine .of_cases (hsymbol _ _ rfl) fun t u ts us htext hrest => ?_
  simp only [enumItem, htext]
  refine .ite (.of_pair h hrest) (.ite ?_ (.ite ?_ ?_))
  · exact alike_optionStatement.map_same (fun _ => h) _ _ hrest
  · exact alike_skipStatement.map_same (fun _ => h) _ _ hrest
  · exact hsymbol _ _ (hrest.cons htext)

theorem alike_enum : Alike Enum.unplaced enum enum := by
  refine (alike_identifier _).bind fun name name' hname => (alike_mark _).bind_same fun _ => ?_
  refine alike_foldUntil (fun _ _ => alike_enumItem) ?_
  rw [hname]
  rfl

/-! ### files -/

theorem alike_dialect : Alike id dialect dialect :=
  (alike_mark _).bind_same fun _ => (alike_literal _).bind_same fun _ =>
    (alike_mark _).bind_same fun _ => alike_pure rfl

theorem alike_package : Alike id package package := by
  refine (alike_typeName _).bind fun name name' hname => (alike_mark _).bind_same fun _ => ?_
  rw [hname]
  exact alike_pure rfl

theorem alike_importKind : Alike id importKind importKind := by
  refine (alike_skips _).bind_same fun _ => .ite (alike_pure rfl) ?_
  exact (alike_skips _).bind_same fun _ => .ite (alike_pure rfl) (alike_pure rfl)

theorem alike_importStatement : Alike id importStatement importStatement :=
  alike_importKind.bind_same fun _ => (alike_literal _).bind_same fun _ =>
    (alike_mark _).bind_same fun _ => alike_pure rfl

theorem File.unplaced_withMessage (f : File) (m : Message) :
    ({ f with messages := f.messages ++ [m] } : File).unplaced =
      { f.unplaced with messages := f.unplaced.messages ++ [m.unplaced] } := by
  simp [File.unplaced]

theorem File.unplaced_withEnum (f : File) (e : Enum) :
    ({ f with enums := f.enums ++ [e] } : File).unplaced =
      { f.unplaced with enums := f.unplaced.enums ++ [e.unplaced] } := by
  simp [File.unplaced]

/-- a declaration of two files that differ in positions only -/
theorem alike_declaration {f g : File} (h : f.unplaced = g.unplaced) :
    Alike File.unplaced (declaration f) (declaration g) := by
  have hsome : f.package.isSome = g.package.isSome := by
    rw [show f.package = f.unplaced.package from rfl, h]
    rfl
  refine .of_cases (.refused rfl) fun t u ts us htext hrest => ?_
  simp only [declaration, htext, hsome]
  refine .ite (.of_pair h hrest) (.ite ?_ (.ite (.ite (.refused rfl) ?_) (.ite ?_ (.ite ?_
    (.ite ?_ (.ite ?_ (.ite ?_ (.refused rfl))))))))
  · refine alike_dialect.map_same (fun s => ?_) _ _ hrest
    exact congrArg (fun f => { f with dialect := some s }) h
  · refine alike_package.map_same (fun p => ?_) _ _ hrest
    exact congrArg (fun f => { f with package := some p }) h
  · refine alike_importStatement.map_same (fun i => ?_) _ _ hrest
    exact congrArg (fun f => { f with imports := f.imports ++ [i] }) h
  · refine alike_optionStatement.map_same (fun s => ?_) _ _ hrest
    exact congrArg (fun f => { f with options := f.options ++ [s] }) h
  · refine alike_message.map (fun m n hm => ?_) _ _ hrest
    rw [File.unplaced_withMessage, File.unplaced_withMessage, h, hm]
  · refine alike_enum.map (fun d e he => ?_) _ _ hrest
    rw [File.unplaced_withEnum, File.unplaced_withEnum, h, he]
  · exact (alike_passedOver _).map_same (fun _ => h) _ _ hrest

end Grammar

/-! ### whole texts -/

open Reader

theorem File.sameOutcome_contents {ts us : List Token} (h : SameTexts ts us) :
    SameOutcome File.unplaced
      (foldAll Grammar.declaration Grammar.takes_declaration (.empty "") ts)
      (foldAll Grammar.declaration Grammar.takes_declaration (.empty "") us) :=
  sameOutcome_foldAll (fun _ _ => Grammar.alike_declaration) rfl h

/-- Texts with the same tokens declare the same file, or are refused for the same fault. -/
theorem File.compile_of_sameTexts {name text other : String} {ts us : Tokens}
    (hscan : Tokens.scan text = .ok ts) (hother : Tokens.scan other = .ok us)
    (hsame : SameTexts ts.list us.list) :
    (∃ f g, compile name text = .ok f ∧ compile name other = .ok g ∧ g.unplaced = f.unplaced) ∨
    ∃ fault p q, compile name text = .error ⟨fault, p⟩ ∧
      compile name other = .error ⟨fault, q⟩ := by
  have hread := sameOutcome_contents hsame
  rw [compile_of_scan hscan, compile_of_scan hother]
  unfold ofTokens contents
  generalize foldAll Grammar.declaration Grammar.takes_declaration (empty "") ts.list = x at hread ⊢
  generalize foldAll Grammar.declaration Grammar.takes_declaration (empty "") us.list = y at hread ⊢
  cases hread with
  | @ok f g hfile =>
    refine .inl ⟨_, _, rfl, rfl, ?_⟩
    rw [assigned_unplaced, assigned_unplaced]
    exact congrArg (fun f : File => assigned { f with name := name }) hfile.symm
  | @refused e e' hfault =>
    refine .inr ⟨e.fault, (e.located ts.finish).position, (e'.located us.finish).position, rfl, ?_⟩
    rw [hfault]
    rfl

/-- White space and comments do not change what a text means: with other spacing between its
tokens it has the same tokens, and it declares the same file or is refused for the same fault. -/
theorem File.compile_respaced {text other : String} {ts : Tokens} (h : Tokens.scan text = .ok ts)
    {first rest : List Char} (hfirst : Spacing first)
    (hrest : Spaced (ts.list.map (·.text.toList)) rest) (hother : other.toList = first ++ rest) :
    (∃ us, Tokens.scan other = .ok us ∧ us.list.map (·.text) = ts.list.map (·.text)) ∧
    ∀ name,
      (∃ f g, compile name text = .ok f ∧ compile name other = .ok g ∧
        g.unplaced = f.unplaced) ∨
      ∃ fault p q, compile name text = .error ⟨fault, p⟩ ∧
        compile name other = .error ⟨fault, q⟩ := by
  obtain ⟨us, hscan, htexts⟩ := Tokens.scan_respaced h hfirst hrest hother
  exact ⟨⟨us, hscan, htexts⟩, fun name => compile_of_sameTexts h hscan htexts.symm⟩

/-- a block comment in front, a tab, a comment up to a line feed, and nothing at the end -/
theorem File.compile_respaced_package : ∃ ts first rest,
    Tokens.scan "package a;" = .ok ts ∧ Spacing first ∧
    Spaced (ts.list.map (·.text.toList)) rest ∧
    "/**/package\ta // b\n;".toList = first ++ rest ∧
    (∃ us, Tokens.scan "/**/package\ta // b\n;" = .ok us ∧
      us.list.map (·.text) = ts.list.map (·.text)) ∧
    ∀ name,
      (∃ f g, compile name "package a;" = .ok f ∧ compile name "/**/package\ta // b\n;" = .ok g ∧
        g.unplaced = f.unplaced) ∨
      ∃ fault p q, compile name "package a;" = .error ⟨fault, p⟩ ∧
        compile name "/**/package\ta // b\n;" = .error ⟨fault, q⟩ := by
  have htexts : (Tokens.scan "package a;").toOption.map (·.list.map (·.text.toList)) =
      some ["package".toList, "a".toList, ";".toList] := by decide +kernel
  have hfirst : Spacing "/**/".toList := .block ⟨[], rfl, by decide⟩ .nil
  have htab : Spacing "\t".toList := .blank (by decide) .nil
  have hline : Spacing " // b\n".toList :=
    .blank (by decide) (.line ⟨" b".toList, rfl, by decide⟩ .nil)
  have hrest : Spaced ["package".toList, "a".toList, ";".toList]
      "package\ta // b\n;".toList :=
    .cons htab (by decide) (.cons hline (by decide) (.last .nil))
  cases hscan : Tokens.scan "package a;" with
  | error e =>
    rw [hscan] at htexts
    cases htexts
  | ok ts =>
    rw [hscan] at htexts
    have hwords : ts.list.map (·.text.toList) = ["package".toList, "a".toList, ";".toList] :=
      Option.some.inj htexts
    rw [← hwords] at hrest
    exact ⟨ts, _, _, rfl, hfirst, hrest, rfl, File.compile_respaced hscan hfirst hrest rfl⟩

end EnvConfig
