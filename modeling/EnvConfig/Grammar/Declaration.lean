import EnvConfig.Grammar.Phrase

/-!
# Declarations

Messages, enums, and the file that they stand in.  A body is read item by item, and each item is
added to what the body declares so far.  Services, extensions and reserved ranges are read past.

* `File.ofTokens`: the file that tokens declare; every message and field is for all targets.
-/

namespace EnvConfig

/-- the message with one more option -/
def Message.withOption (m : Message) (s : Setting) : Message :=
  { m with options := m.options ++ [s] }

/-- the message with more fields at its end -/
def Message.withFields (m : Message) (fs : List Field) : Message :=
  { m with fields := m.fields ++ fs }

def Enum.withSymbol (e : Enum) (s : Symbol) : Enum := { e with symbols := e.symbols ++ [s] }

namespace Grammar

open Reader Text

/-- a type name and a block, both of no further use -/
def passedOver (what : Expectation) : Reader Unit := do
  let _ ← typeName what
  skipBlock

theorem takes_passedOver (what : Expectation) : (passedOver what).Takes :=
  (takes_typeName _).bind fun _ => takes_skipBlock.keeps

/-! ### groups of alternative fields -/

/-- an item of the group `group`, whose fields so far are `fs` -/
def alternative (group : String) (fs : List Field) : Reader (List Field) := do
  if ← skips "option" then
    let _ ← optionStatement
    return fs
  else if ← skips ";" then return fs
  else
    let f ← labelled (.oneof group)
    return fs ++ [f]

/-- an item that is not a lone semicolon takes a token, and a lone semicolon is one -/
theorem takes_alternative (group : String) (fs : List Field) : (alternative group fs).Takes := by
  have htrue : ∀ text ts rest, skips text ts = .ok (true, rest) → rest.length < ts.length := by
    intro text ts rest h
    unfold skips at h
    split at h
    · split at h <;> cases h
      simp
    · cases h
  intro ts a rest h
  obtain ⟨b, mid, h1, h⟩ := bind_eq_ok.mp h
  cases b with
  | true =>
    have hoption := takes_optionStatement.bind (fun _ => keeps_pure _) _ _ _ h
    exact Nat.lt_trans hoption (htrue _ _ _ h1)
  | false =>
    obtain ⟨b, mid', h2, h⟩ := bind_eq_ok.mp h
    have hle := keeps_skips _ _ _ _ h1
    cases b with
    | true =>
      exact Nat.lt_of_le_of_lt (keeps_pure _ _ _ _ h) (Nat.lt_of_lt_of_le (htrue _ _ _ h2) hle)
    | false =>
      have := (takes_labelled _).bind (fun _ => keeps_pure _) _ _ _ h
      exact Nat.lt_of_lt_of_le this (Nat.le_trans (keeps_skips _ _ _ _ h2) hle)

/-- `oneof` has been read; the fields of the group follow -/
def oneof : Reader (List Field) := do
  let group ← identifier .oneofName
  mark opening
  foldUntil closing (alternative group.text) (takes_alternative group.text) []

theorem takes_oneof : oneof.Takes :=
  (takes_identifier _).bind fun _ => (takes_mark _).keeps.bind fun _ =>
    (takes_foldUntil _ _ _ _).keeps

/-! ### messages -/

/-- the words that would begin a definition inside a message -/
def isDefinition (text : String) : Bool := text == "message" || text == "enum" || text == "group"

/-- an item of the body of a message -/
def member (m : Message) : Reader Message
  | [] => refuse .unfinished []
  | t :: ts =>
    if t.text == ";" then .ok (m, ts)
    else if t.text == "option" then (m.withOption <$> optionStatement) ts
    else if t.text == "reserved" || t.text == "extensions" then ((fun _ => m) <$> skipStatement) ts
    else if t.text == "extend" then ((fun _ => m) <$> passedOver .typeName) ts
    else if t.text == "oneof" then (m.withFields <$> oneof) ts
    else if isDefinition t.text && isIdentifier (headText ts).toList then
      refuse (.nested t.text) (t :: ts)
    else ((fun f => m.withFields [f]) <$> field) (t :: ts)

/-- a reader that runs after the first token takes that token -/
theorem lt_length_cons_of_keeps {α : Type} {r : Reader α} (hr : r.Keeps) {t : Token}
    {ts rest : List Token} {a : α} (h : r ts = .ok (a, rest)) : rest.length < (t :: ts).length :=
  Nat.lt_succ_of_le (hr ts a rest h)

theorem takes_member (m : Message) : (member m).Takes := by
  intro ts a rest h
  cases ts with
  | nil => cases h
  | cons t ts =>
    simp only [member] at h
    split at h
    · cases h; simp
    · split at h
      · exact lt_length_cons_of_keeps (takes_optionStatement.map _).keeps h
      · split at h
        · exact lt_length_cons_of_keeps (takes_skipStatement.map _).keeps h
        · split at h
          · exact lt_length_cons_of_keeps ((takes_passedOver _).map _).keeps h
          · split at h
            · exact lt_length_cons_of_keeps (takes_oneof.map _).keeps h
            · split at h
              · cases h
              · exact takes_field.map _ _ _ _ h

/-- `message` has been read; a name and a body follow -/
def message : Reader Message := do
  let name ← identifier .messageName
  mark opening
  foldUntil closing member takes_member ⟨name.text, name.position, [], [], .all⟩

theorem takes_message : message.Takes :=
  (takes_identifier _).bind fun _ => (takes_mark _).keeps.bind fun _ =>
    (takes_foldUntil _ _ _ _).keeps

/-! ### enums -/

/-- `NAME = number`, options and a semicolon -/
def symbol : Reader Symbol := do
  let name ← identifier .enumValue
  mark "="
  let number ← integer .integer
  let _ ← settings
  mark ";"
  return ⟨name.text, number⟩

theorem takes_symbol : symbol.Takes :=
  (takes_identifier _).bind fun _ => (takes_mark _).keeps.bind fun _ =>
    (takes_integer _).keeps.bind fun _ => keeps_settings.bind fun _ =>
    (takes_mark _).keeps.bind fun _ => keeps_pure _

/-- an item of the body of an enum -/
def enumItem (e : Enum) : Reader Enum
  | [] => (e.withSymbol <$> symbol) []
  | t :: ts =>
    if t.text == ";" then .ok (e, ts)
    else if t.text == "option" then ((fun _ => e) <$> optionStatement) ts
    else if t.text == "reserved" then ((fun _ => e) <$> skipStatement) ts
    else (e.withSymbol <$> symbol) (t :: ts)

theorem takes_enumItem (e : Enum) : (enumItem e).Takes := by
  intro ts a rest h
  cases ts with
  | nil => exact takes_symbol.map _ _ _ _ h
  | cons t ts =>
    simp only [enumItem] at h
    split at h
    · cases h; simp
    · split at h
      · exact lt_length_cons_of_keeps (takes_optionStatement.map _).keeps h
      · split at h
        · exact lt_length_cons_of_keeps (takes_skipStatement.map _).keeps h
        · exact takes_symbol.map _ _ _ _ h

/-- `enum` has been read; a name and a body follow -/
def enum : Reader Enum := do
  let name ← identifier .enumName
  mark opening
  foldUntil closing enumItem takes_enumItem ⟨name.text, name.position, []⟩

theorem takes_enum : enum.Takes :=
  (takes_identifier _).bind fun _ => (takes_mark _).keeps.bind fun _ =>
    (takes_foldUntil _ _ _ _).keeps

/-! ### files -/

/-- the version of the language: `= "…" ;` -/
def dialect : Reader String := do
  mark "="
  let s ← literal .string
  mark ";"
  return s

/-- a package name without the dots in front of it -/
def package : Reader String := do
  let name ← typeName .packageName
  mark ";"
  return String.ofList (name.text.toList.dropWhile (· == '.'))

def importKind : Reader ImportKind := do
  if ← skips "public" then return .reexported
  else if ← skips "weak" then return .weak
  else return .ordinary

def importStatement : Reader Import := do
  let kind ← importKind
  let path ← literal .importPath
  mark ";"
  return ⟨path, kind⟩

theorem takes_dialect : dialect.Takes :=
  (takes_mark _).bind fun _ => (takes_literal _).keeps.bind fun _ =>
    (takes_mark _).keeps.bind fun _ => keeps_pure _

theorem takes_package : package.Takes :=
  (takes_typeName _).bind fun _ => (takes_mark _).keeps.bind fun _ => keeps_pure _

theorem keeps_importKind : importKind.Keeps := by
  refine (keeps_skips _).bind fun _ => Keeps.ite (keeps_pure _) ?_
  exact (keeps_skips _).bind fun _ => Keeps.ite (keeps_pure _) (keeps_pure _)

theorem takes_importStatement : importStatement.Takes :=
  keeps_importKind.bind_takes fun _ => (takes_literal _).bind fun _ =>
    (takes_mark _).keeps.bind fun _ => keeps_pure _

/-- a declaration of the file `f` -/
def declaration (f : File) : Reader File
  | [] => refuse .unfinished []
  | t :: ts =>
    if t.text == ";" then .ok (f, ts)
    else if t.text == "syntax" || t.text == "edition" then
      ((fun s => { f with dialect := some s }) <$> dialect) ts
    else if t.text == "package" then
      if f.package.isSome then refuse .secondPackage (t :: ts)
      else ((fun p => { f with package := some p }) <$> package) ts
    else if t.text == "import" then
      ((fun i => { f with imports := f.imports ++ [i] }) <$> importStatement) ts
    else if t.text == "option" then
      ((fun s => { f with options := f.options ++ [s] }) <$> optionStatement) ts
    else if t.text == "message" then
      ((fun m => { f with messages := f.messages ++ [m] }) <$> message) ts
    else if t.text == "enum" then ((fun e => { f with enums := f.enums ++ [e] }) <$> enum) ts
    else if t.text == "service" || t.text == "extend" then
      ((fun _ => f) <$> passedOver .identifier) ts
    else refuse (.unexpected t.text) (t :: ts)

theorem takes_declaration (f : File) : (declaration f).Takes := by
  intro ts a rest h
  cases ts with
  | nil => cases h
  | cons t ts =>
    simp only [declaration] at h
    split at h
    · cases h; simp
    · split at h
      · exact lt_length_cons_of_keeps (takes_dialect.map _).keeps h
      · split at h
        · split at h
          · cases h
          · exact lt_length_cons_of_keeps (takes_package.map _).keeps h
        · split at h
          · exact lt_length_cons_of_keeps (takes_importStatement.map _).keeps h
          · split at h
            · exact lt_length_cons_of_keeps (takes_optionStatement.map _).keeps h
            · split at h
              · exact lt_length_cons_of_keeps (takes_message.map _).keeps h
              · split at h
                · exact lt_length_cons_of_keeps (takes_enum.map _).keeps h
                · split at h
                  · exact lt_length_cons_of_keeps ((takes_passedOver _).map _).keeps h
                  · cases h

end Grammar

/-- what tokens declare, in a file without a name -/
def File.contents (ts : Tokens) : Except ParseError File :=
  (Reader.foldAll Grammar.declaration Grammar.takes_declaration (.empty "") ts.list).mapError
    (·.located ts.finish)

/-- the file `name` that tokens declare -/
def File.ofTokens (name : String) (ts : Tokens) : Except ParseError File :=
  (contents ts).map fun f => { f with name := name }

theorem File.name_of_ofTokens {name : String} {ts : Tokens} {f : File}
    (h : File.ofTokens name ts = .ok f) : f.name = name := by
  unfold ofTokens at h
  cases hc : contents ts with
  | error e =>
    rw [hc] at h
    cases h
  | ok c =>
    rw [hc] at h
    cases h
    rfl

end EnvConfig
