import EnvConfig.Proofs.Grammar.Anywhere
import EnvConfig.Schema.Audience

/-!
# Two texts with a line feed between them declare what both declare

Phrases and declarations are read the same anywhere, a phrase that may leave off early with the text
of the next token.  A declaration looks at the declarations before it for one thing only, whether
they name the package.  So a text behind another one and a line feed declares what it declares
alone, some lines lower.

* `File.joined`: the declarations of two files, one after the other;
* `anywhere_setting`, `anywhere_field`, …: the phrases;
* `anywhere_member`, `declaration_joined`, …: the items of bodies and of files;
* `File.compile_joined`: the two texts.
-/

namespace EnvConfig

/-! ### lower declarations -/

def Field.lowered (n : Nat) (f : Field) : Field := { f with position := f.position.lowered n }

def Message.lowered (n : Nat) (m : Message) : Message :=
  { m with position := m.position.lowered n, fields := m.fields.map (Field.lowered n) }

def Enum.lowered (n : Nat) (e : Enum) : Enum := { e with position := e.position.lowered n }

/-- the file with each of its definitions `n` lines lower -/
def File.lowered (n : Nat) (f : File) : File :=
  { f with messages := f.messages.map (Message.lowered n), enums := f.enums.map (Enum.lowered n) }

/-- the file `f` with the declarations of `g` after its own; `g` has the last word on the dialect -/
def File.joined (f g : File) : File where
  name := f.name
  dialect := g.dialect.or f.dialect
  package := f.package.or g.package
  imports := f.imports ++ g.imports
  options := f.options ++ g.options
  messages := f.messages ++ g.messages
  enums := f.enums ++ g.enums

theorem File.joined_empty (f : File) (n : Nat) (name : String) :
    f.joined ((empty name).lowered n) = f := by
  simp [joined, lowered, empty]

theorem Message.assigned_lowered (n : Nat) (m : Message) :
    (m.lowered n).assigned = m.assigned.lowered n := by
  simp [assigned, lowered, Field.assigned, Field.lowered]

theorem File.assigned_joined (f g : File) (n : Nat) :
    (f.joined (g.lowered n)).assigned = f.assigned.joined (g.assigned.lowered n) := by
  simp [assigned, joined, lowered, Message.assigned_lowered]

theorem Message.withFields_lowered (n : Nat) (m : Message) (fs : List Field) :
    (m.lowered n).withFields (fs.map (Field.lowered n)) = (m.withFields fs).lowered n := by
  simp [Message.withFields, Message.lowered]

theorem File.joined_withMessage (n : Nat) (base f : File) (m : Message) :
    base.joined (({ f with messages := f.messages ++ [m] } : File).lowered n) =
      { base.joined (f.lowered n) with
        messages := (base.joined (f.lowered n)).messages ++ [m.lowered n] } := by
  simp [joined, lowered]

theorem File.joined_withEnum (n : Nat) (base f : File) (e : Enum) :
    base.joined (({ f with enums := f.enums ++ [e] } : File).lowered n) =
      { base.joined (f.lowered n) with
        enums := (base.joined (f.lowered n)).enums ++ [e.lowered n] } := by
  simp [joined, lowered]

namespace Grammar

open Reader Text

variable {n : Nat}

/-! ### phrases -/

theorem anywhere_identifier (what : Expectation) :
    Anywhere n (Token.lowered n) (identifier what) (identifier what) := anywhere_token _ _

theorem anywhere_typeName (what : Expectation) :
    Anywhere n (Token.lowered n) (typeName what) (typeName what) := anywhere_token _ _

theorem anywhere_literal (what : Expectation) : Anywhere n id (literal what) (literal what) :=
  (anywhere_token _ _).bind fun _ => anywhere_pure rfl

theorem anywhere_integer (what : Expectation) : Anywhere n id (integer what) (integer what) := by
  refine (anywhere_token _ _).bind fun t => ?_
  rw [Token.text_lowered]
  cases (Number.literal? t.text.toList).bind Number.toInt32? with
  | some n => exact anywhere_pure rfl
  | none => exact anywhere_error _ _

theorem ahead_suffix : AnywhereAhead n id suffix suffix := by
  refine ahead_of_test (isDotSuffix ·.toList) id "" (by decide) (fun t ts htest => ?_)
    fun ts htest => ?_
  · exact congrArg Except.ok (if_pos htest)
  · cases ts with
    | nil => rfl
    | cons t ts => exact congrArg Except.ok (if_neg (Bool.eq_false_iff.mp htest))

theorem ahead_optionName : AnywhereAhead n id optionName optionName := by
  refine (ahead_skips (by decide)).bind fun _ => .ite ?_ ?_
  · exact (anywhere_typeName _).ahead.bind fun _ => (anywhere_mark _).ahead.bind fun _ =>
      ahead_suffix.bind fun _ => (anywhere_pure rfl).ahead
  · exact (anywhere_typeName _).ahead.bind fun _ => (anywhere_pure rfl).ahead

theorem anywhere_optionValue : Anywhere n id optionValue optionValue := by
  refine ahead_peek.bind_anywhere (fun _ => .ite ?_ ?_) fun _ => .ite ?_ ?_
  · exact anywhere_skipBlock.bind fun _ => anywhere_pure rfl
  · exact (anywhere_token _ _).bind fun _ => anywhere_pure rfl
  · exact takes_skipBlock.bind fun _ => keeps_pure _
  · exact (takes_token _ _).bind fun _ => keeps_pure _

theorem anywhere_setting : Anywhere n id setting setting := by
  refine ahead_optionName.bind_anywhere (fun _ => ?_) fun _ => ?_
  · exact (anywhere_mark _).bind fun _ => anywhere_optionValue.bind fun _ => anywhere_pure rfl
  · exact (takes_mark _).bind fun _ => takes_optionValue.keeps.bind fun _ => keeps_pure _

theorem anywhere_optionStatement : Anywhere n id optionStatement optionStatement :=
  anywhere_setting.bind fun _ => (anywhere_mark _).bind fun _ => anywhere_pure rfl

theorem anywhere_nextSetting (before : List Setting) :
    Anywhere n id (nextSetting before) (nextSetting before) :=
  (anywhere_mark _).bind fun _ => anywhere_setting.bind fun _ => anywhere_pure rfl

theorem ahead_settings : AnywhereAhead n id settings settings := by
  refine (ahead_skips (by decide)).bind fun _ => .ite ?_ (anywhere_pure rfl).ahead
  exact (anywhere_setting.bind fun _ => anywhere_foldUntil anywhere_nextSetting _).ahead

/-! ### fields -/

theorem mapOpening_cons (t : Token) (ts : List Token) :
    mapOpening (t :: ts) =
      .ok (if t.text == "map" && headText ts == "<" then (true, ts.tail)
        else (false, t :: ts)) := by
  cases ts with
  | nil => exact congrArg Except.ok (if_neg (by simp [headText])).symm
  | cons u ts => rfl

/-- A type that is no map may be named `map`, so whether a map is opened is seen at two tokens: in
the second case below the other one may be what comes behind. -/
theorem ahead_mapOpening {α β : Type} {f : α → β} {k : Bool → Reader α} {k' : Bool → Reader β}
    (hmap : Anywhere n f (k true) (k' true)) (hnamed : Anywhere n f (k false) (k' false))
    (htakes : (k false).Takes) : AnywhereAhead n f (mapOpening >>= k) (mapOpening >>= k') := by
  intro ts a rest h
  cases ts with
  | nil => exact absurd (htakes [] a rest h) (Nat.not_lt_zero _)
  | cons t ts =>
    by_cases hopening : (t.text == "map" && headText ts == "<") = true
    · cases ts with
      | nil => simp [headText] at hopening
      | cons u ts =>
        rw [bind_of_ok (congrArg Except.ok (if_pos hopening))] at h
        obtain ⟨taken, rfl, hall⟩ := hmap ts a rest h
        refine ⟨t :: u :: taken, rfl, fun rest' _ => ?_⟩
        exact (bind_of_ok (congrArg Except.ok (if_pos hopening))).trans (hall rest')
    · rw [bind_of_ok ((mapOpening_cons t ts).trans (congrArg Except.ok (if_neg hopening)))] at h
      obtain ⟨taken, rfl, hall⟩ := hnamed.given htakes t ts a rest h
      refine ⟨t :: taken, rfl, fun rest' hhead => ?_⟩
      rw [← headText_lowered (n := n) hhead] at hopening
      exact (bind_of_ok ((mapOpening_cons (t.lowered n) _).trans
        (congrArg Except.ok (if_neg hopening)))).trans (hall rest')

theorem ahead_fieldType : AnywhereAhead n id fieldType fieldType := by
  refine ahead_mapOpening ?_ ?_ ?_
  · exact (anywhere_typeName _).bind fun _ => (anywhere_mark _).bind fun _ =>
      (anywhere_typeName _).bind fun _ => (anywhere_mark _).bind fun _ => anywhere_pure rfl
  · exact (anywhere_typeName _).bind fun _ => anywhere_pure rfl
  · exact (takes_typeName _).bind fun _ => keeps_pure _

theorem ahead_label : AnywhereAhead n id label label := by
  refine (ahead_skips (by decide)).bind fun _ => .ite (anywhere_pure rfl).ahead ?_
  refine (ahead_skips (by decide)).bind fun _ => .ite (anywhere_pure rfl).ahead ?_
  exact (ahead_skips (by decide)).bind fun _ => (anywhere_pure rfl).ahead

theorem anywhere_labelled (l : Label) :
    Anywhere n (Field.lowered n) (labelled l) (labelled l) := by
  refine ahead_fieldType.bind_anywhere (fun _ => ?_) fun _ => ?_
  · refine (anywhere_identifier _).bind fun _ => (anywhere_mark _).bind fun _ => ?_
    refine (anywhere_integer _).bind fun _ => ahead_settings.bind_anywhere (fun _ => ?_) fun _ => ?_
    · exact (anywhere_mark _).bind fun _ => anywhere_pure rfl
    · exact (takes_mark _).bind fun _ => keeps_pure _
  · exact (takes_identifier _).bind fun _ => (takes_mark _).keeps.bind fun _ =>
      (takes_integer _).keeps.bind fun _ => keeps_settings.bind fun _ =>
      (takes_mark _).keeps.bind fun _ => keeps_pure _

theorem anywhere_field : Anywhere n (Field.lowered n) field field :=
  ahead_label.bind_anywhere anywhere_labelled takes_labelled

/-- a field takes a type and a name at least -/
theorem length_lt_of_field {f : Field} {ts rest : List Token} (h : field ts = .ok (f, rest)) :
    rest.length + 1 < ts.length := by
  obtain ⟨l, mid, hlabel, hmore⟩ := bind_eq_ok.mp h
  obtain ⟨type, mid', htype, hname⟩ := bind_eq_ok.mp hmore
  have hnamed : rest.length < mid'.length := by
    refine Takes.bind (takes_identifier _) (fun _ => ?_) _ _ _ hname
    exact (takes_mark _).keeps.bind fun _ => (takes_integer _).keeps.bind fun _ =>
      keeps_settings.bind fun _ => (takes_mark _).keeps.bind fun _ => keeps_pure _
  have htyped := takes_fieldType _ _ _ htype
  have hlabelled := keeps_label _ _ _ hlabel
  omega

theorem anywhere_passedOver (what : Expectation) :
    Anywhere n id (passedOver what) (passedOver what) :=
  (anywhere_typeName _).bind fun _ => anywhere_skipBlock

/-! ### messages -/

theorem anywhere_alternative (group : String) (fs : List Field) :
    Anywhere n (List.map (Field.lowered n)) (alternative group fs)
      (alternative group (fs.map (Field.lowered n))) := by
  have hfield : (labelled (.oneof group) >>= fun f => pure (fs ++ [f])).Takes :=
    (takes_labelled _).bind fun _ => keeps_pure _
  refine anywhere_skips_bind _ ?_ (anywhere_skips_bind _ (anywhere_pure rfl) ?_ hfield) ?_
  · exact anywhere_optionStatement.bind fun _ => anywhere_pure rfl
  · exact (anywhere_labelled _).bind fun _ => anywhere_pure List.map_append
  · exact takes_skips_bind _ (keeps_pure _) hfield

theorem anywhere_oneof : Anywhere n (List.map (Field.lowered n)) oneof oneof :=
  (anywhere_identifier _).bind fun group => (anywhere_mark _).bind fun _ =>
    anywhere_foldUntil (anywhere_alternative group.text) []

/-- A field takes two tokens at least, so the token that makes a definition of the first one is not
what comes behind the field. -/
theorem anywhere_field_of_no_definition (m : Message) (t : Token) :
    Anywhere n (Message.lowered n)
      (fun ts => if isDefinition t.text && isIdentifier (headText ts).toList then
        refuse (.nested t.text) (t :: ts) else ((fun f => m.withFields [f]) <$> field) (t :: ts))
      (fun ts => if isDefinition t.text && isIdentifier (headText ts).toList then
        refuse (.nested t.text) (t.lowered n :: ts)
        else ((fun f => (m.lowered n).withFields [f]) <$> field) (t.lowered n :: ts)) := by
  have hfield : Anywhere n (Message.lowered n) ((fun f => m.withFields [f]) <$> field)
      ((fun f => (m.lowered n).withFields [f]) <$> field) :=
    anywhere_field.map fun f => (Message.withFields_lowered n m [f]).symm
  intro ts a rest h
  by_cases hdefinition : (isDefinition t.text && isIdentifier (headText ts).toList) = true
  · cases (if_pos hdefinition).symm.trans h
  · replace h := (if_neg hdefinition).symm.trans h
    obtain ⟨taken, rfl, hall⟩ := hfield.given (takes_field.map _) t ts a rest h
    have hne : taken ≠ [] := by
      rintro rfl
      obtain ⟨read, hread, -⟩ := exists_of_map_eq_ok h
      exact absurd (length_lt_of_field hread) (Nat.lt_irrefl _)
    refine ⟨taken, rfl, fun rest' => ?_⟩
    rw [← headText_lowered_of_ne_nil (n := n) hne rest rest'] at hdefinition
    exact (if_neg hdefinition).trans (hall rest')

theorem anywhere_member (m : Message) :
    Anywhere n (Message.lowered n) (member m) (member (m.lowered n)) := by
  refine anywhere_of_cons (fun _ => nofun) fun t => ?_
  simp only [member]
  refine .branch (anywhere_pure rfl) (.branch ?_ (.branch ?_ (.branch ?_ (.branch ?_ ?_))))
  · exact anywhere_optionStatement.map fun _ => rfl
  · exact anywhere_skipStatement.map fun _ => rfl
  · exact (anywhere_passedOver _).map fun _ => rfl
  · exact anywhere_oneof.map fun fs => (Message.withFields_lowered n m fs).symm
  · exact anywhere_field_of_no_definition m t

theorem anywhere_message : Anywhere n (Message.lowered n) message message :=
  (anywhere_identifier _).bind fun _ => (anywhere_mark _).bind fun _ =>
    anywhere_foldUntil anywhere_member _

/-! ### enums -/

theorem anywhere_symbol : Anywhere n id symbol symbol := by
  refine (anywhere_identifier _).bind fun _ => (anywhere_mark _).bind fun _ => ?_
  refine (anywhere_integer _).bind fun _ => ahead_settings.bind_anywhere (fun _ => ?_) fun _ => ?_
  · exact (anywhere_mark _).bind fun _ => anywhere_pure rfl
  · exact (takes_mark _).bind fun _ => keeps_pure _

theorem anywhere_enumItem (e : Enum) :
    Anywhere n (Enum.lowered n) (enumItem e) (enumItem (e.lowered n)) := by
  have hsymbol : Anywhere n (Enum.lowered n) (e.withSymbol <$> symbol)
      ((e.lowered n).withSymbol <$> symbol) := anywhere_symbol.map fun _ => rfl
  refine anywhere_of_cons (fun _ => nofun) fun t => ?_
  simp only [enumItem]
  refine .branch (anywhere_pure rfl) (.branch ?_ (.branch ?_ ?_))
  · exact anywhere_optionStatement.map fun _ => rfl
  · exact anywhere_skipStatement.map fun _ => rfl
  · exact hsymbol.given (takes_symbol.map _) t

theorem anywhere_enum : Anywhere n (Enum.lowered n) enum enum :=
  (anywhere_identifier _).bind fun _ => (anywhere_mark _).bind fun _ =>
    anywhere_foldUntil anywhere_enumItem _

/-! ### files -/

theorem anywhere_dialect : Anywhere n id dialect dialect :=
  (anywhere_mark _).bind fun _ => (anywhere_literal _).bind fun _ =>
    (anywhere_mark _).bind fun _ => anywhere_pure rfl

theorem anywhere_package : Anywhere n id package package :=
  (anywhere_typeName _).bind fun _ => (anywhere_mark _).bind fun _ => anywhere_pure rfl

theorem ahead_importKind : AnywhereAhead n id importKind importKind := by
  refine (ahead_skips (by decide)).bind fun _ => .ite (anywhere_pure rfl).ahead ?_
  exact (ahead_skips (by decide)).bind fun _ => .ite (anywhere_pure rfl).ahead
    (anywhere_pure rfl).ahead

theorem anywhere_importStatement : Anywhere n id importStatement importStatement := by
  refine ahead_importKind.bind_anywhere (fun _ => ?_) fun _ => ?_
  · exact (anywhere_literal _).bind fun _ => (anywhere_mark _).bind fun _ => anywhere_pure rfl
  · exact (takes_literal _).bind fun _ => (takes_mark _).keeps.bind fun _ => keeps_pure _

theorem declaration_of_package (f : File) {t : Token} (h : t.text = "package") (ts : List Token) :
    declaration f (t :: ts) = if f.package.isSome then refuse .secondPackage (t :: ts)
      else ((fun p => { f with package := some p }) <$> package) ts := by
  simp [declaration, h]

/-- a declaration that does not name the package leaves it -/
theorem package_of_declaration {f f' : File} {t : Token} {ts rest : List Token}
    (hother : (t.text == "package") = false) (h : declaration f (t :: ts) = .ok (f', rest)) :
    f'.package = f.package := by
  simp only [declaration, hother, Bool.false_eq_true, if_false] at h
  split at h
  · cases h; rfl
  · split at h
    · obtain ⟨_, -, rfl⟩ := exists_of_map_eq_ok h; rfl
    · split at h
      · obtain ⟨_, -, rfl⟩ := exists_of_map_eq_ok h; rfl
      · split at h
        · obtain ⟨_, -, rfl⟩ := exists_of_map_eq_ok h; rfl
        · split at h
          · obtain ⟨_, -, rfl⟩ := exists_of_map_eq_ok h; rfl
          · split at h
            · obtain ⟨_, -, rfl⟩ := exists_of_map_eq_ok h; rfl
            · split at h
              · obtain ⟨_, -, rfl⟩ := exists_of_map_eq_ok h; rfl
              · cases h

theorem anywhere_declaration (base f : File) {t : Token} (hother : (t.text == "package") = false) :
    Anywhere n (fun g => base.joined (g.lowered n)) (fun ts => declaration f (t :: ts))
      (fun ts => declaration (base.joined (f.lowered n)) (t.lowered n :: ts)) := by
  simp only [declaration, Token.text_lowered, hother, Bool.false_eq_true, if_false]
  refine .branch (anywhere_pure rfl) (.branch ?_ (.branch ?_ (.branch ?_ (.branch ?_ (.branch ?_
    (.branch ?_ (anywhere_refuse _ _ _)))))))
  · exact anywhere_dialect.map fun _ => rfl
  · exact anywhere_importStatement.map fun _ => by simp [File.joined, File.lowered]
  · exact anywhere_optionStatement.map fun _ => by simp [File.joined, File.lowered]
  · exact anywhere_message.map fun m => File.joined_withMessage n base f m
  · exact anywhere_enum.map fun e => File.joined_withEnum n base f e
  · exact (anywhere_passedOver _).map fun _ => rfl

/-- the package can be named behind a file that does not name it -/
theorem anywhere_declaration_package {base f : File} {t : Token} (htext : t.text = "package")
    (hbase : base.package = none) (hnone : f.package = none) :
    Anywhere n (fun g => base.joined (g.lowered n)) (fun ts => declaration f (t :: ts))
      (fun ts => declaration (base.joined (f.lowered n)) (t.lowered n :: ts)) := by
  have hfree : (base.joined (f.lowered n)).package = none := by
    show base.package.or f.package = none
    rw [hbase, hnone]
    rfl
  have htext' : (t.lowered n).text = "package" := htext
  simp only [declaration_of_package _ htext, declaration_of_package _ htext', hnone, hfree,
    Option.isSome_none, Bool.false_eq_true, if_false]
  refine anywhere_package.map fun p => ?_
  simp [File.joined, File.lowered, hbase]

/-- A declaration of `f` is one of `f` behind `base`, unless both name the package in the end. -/
theorem declaration_joined (base f : File) (ts : List Token) (f' : File) (rest : List Token)
    (h : declaration f ts = .ok (f', rest)) (hpackage : base.package = none ∨ f'.package = none) :
    (base.package = none ∨ f.package = none) ∧
      ReadsAnywhere n (declaration (base.joined (f.lowered n))) ts (base.joined (f'.lowered n))
        rest := by
  cases ts with
  | nil => cases h
  | cons t ts =>
    cases hother : t.text == "package" with
    | false =>
      rw [package_of_declaration hother h] at hpackage
      exact ⟨hpackage, (anywhere_declaration base f hother ts f' rest h).cons fun _ => rfl⟩
    | true =>
      have htext : t.text = "package" := beq_iff_eq.mp hother
      have hread := h
      rw [declaration_of_package f htext] at hread
      cases hnone : f.package with
      | some p =>
        rw [hnone] at hread
        cases hread
      | none =>
        rw [hnone] at hread
        obtain ⟨p, -, rfl⟩ := exists_of_map_eq_ok hread
        have hbase : base.package = none := hpackage.resolve_right nofun
        have hanywhere := anywhere_declaration_package (n := n) htext hbase hnone
        exact ⟨.inr rfl, (hanywhere ts _ rest h).cons fun _ => rfl⟩

end Grammar

/-! ### whole texts -/

open Reader

/-- tokens behind others declare what they declare alone, lower by the lines that they stand
lower -/
theorem File.foldAll_joined {f g : File} {ts us : List Token}
    (hf : foldAll Grammar.declaration Grammar.takes_declaration (.empty "") ts = .ok f)
    (hg : foldAll Grammar.declaration Grammar.takes_declaration (.empty "") us = .ok g)
    (hpackage : f.package = none ∨ g.package = none) (n : Nat) :
    foldAll Grammar.declaration Grammar.takes_declaration (.empty "")
      (ts ++ us.map (Token.lowered n)) = .ok (f.joined (g.lowered n)) := by
  -- the first tokens are read in place, behind the empty file
  have hfront := (foldAll_anywhere (n := 0) Grammar.takes_declaration
    (Grammar.declaration_joined (.empty "")) hf (.inl rfl)).2
  rw [joined_empty, Token.lowered_zero, List.map_id] at hfront
  have hwhole : f = (empty "").joined (f.lowered 0) := by
    have hend := hfront []
    rw [List.append_nil, hf, foldAll] at hend
    exact Except.ok.inj hend
  have hback := (foldAll_anywhere (n := n) Grammar.takes_declaration
    (Grammar.declaration_joined f) hg hpackage).2 []
  rw [joined_empty, List.append_nil, foldAll] at hback
  rw [hfront, ← hwhole, hback]

theorem File.exists_of_compile {name text : String} {f : File} (h : compile name text = .ok f) :
    ∃ ts c, Tokens.scan text = .ok ts ∧
      foldAll Grammar.declaration Grammar.takes_declaration (.empty "") ts.list = .ok c ∧
      f = assigned { c with name := name } := by
  unfold compile at h
  cases hscan : Tokens.scan text with
  | error e =>
    rw [hscan] at h
    cases h
  | ok ts =>
    rw [hscan] at h
    cases hread : foldAll Grammar.declaration Grammar.takes_declaration (.empty "") ts.list with
    | error e => simp [Except.bind, Except.map, ofTokens, contents, hread, Except.mapError] at h
    | ok c =>
      simp only [Except.bind, Except.map, ofTokens, contents, hread, Except.mapError,
        Except.ok.injEq] at h
      exact ⟨ts, c, rfl, hread, h.symm⟩

/-- Two texts that are accepted, and do not both name a package, are accepted with a line feed
between them.  The file has the declarations of the first and then those of the second, whose
definitions stand lower by the line feeds of the first text and one more. -/
theorem File.compile_joined {name text other : String} {f g : File}
    (hf : compile name text = .ok f) (hg : compile name other = .ok g)
    (hpackage : f.package = none ∨ g.package = none) :
    compile name (text ++ "\n" ++ other) =
      .ok (f.joined (g.lowered (text.toList.count '\n' + 1))) := by
  obtain ⟨ts, c, hscan, hread, rfl⟩ := exists_of_compile hf
  obtain ⟨us, d, hscan', hread', rfl⟩ := exists_of_compile hg
  have hjoined := foldAll_joined hread hread' hpackage (text.toList.count '\n' + 1)
  rw [compile_of_scan (Tokens.scan_joined hscan hscan'), ofTokens, contents, hjoined,
    ← assigned_joined]
  rfl

/-- a service that is read past, and a comment up to the line feed in between -/
theorem File.compile_joined_behind_comment :
    let f : File := ⟨"a", none, some "p", [], [], [], []⟩
    let g : File := ⟨"a", some "proto3", none, [], [],
      [⟨"M", ⟨2, 9⟩, [⟨"x", ⟨2, 20⟩, .named "string", 1, .plain, [], .all⟩], [], .all⟩], []⟩
    compile "a" "package p;\nservice S { rpc f; } // end" = .ok f ∧
    compile "a" "syntax = \"proto3\";\nmessage M { string x = 1; }" = .ok g ∧
    (f.package = none ∨ g.package = none) ∧
    compile "a" ("package p;\nservice S { rpc f; } // end" ++ "\n" ++
      "syntax = \"proto3\";\nmessage M { string x = 1; }") = .ok (f.joined (g.lowered 2)) := by
  have hf : compile "a" "package p;\nservice S { rpc f; } // end" =
      .ok ⟨"a", none, some "p", [], [], [], []⟩ := by decide +kernel
  have hg : compile "a" "syntax = \"proto3\";\nmessage M { string x = 1; }" =
      .ok ⟨"a", some "proto3", none, [], [],
        [⟨"M", ⟨2, 9⟩, [⟨"x", ⟨2, 20⟩, .named "string", 1, .plain, [], .all⟩], [], .all⟩], []⟩ := by
    decide +kernel
  exact ⟨hf, hg, .inr rfl, compile_joined hf hg (.inr rfl)⟩

end EnvConfig
