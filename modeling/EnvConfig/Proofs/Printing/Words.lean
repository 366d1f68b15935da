import EnvConfig.Grammar.Declaration
import EnvConfig.Schema.Audience

/-!
# Schemas as texts

A file is printed as words with gaps between them.  Every string is printed as a literal in double
quotes, every number in decimal, every field with its label, and each of a group of alternative
fields in a group of its own.  Positions and targets are not printed.

* `File.words`, `File.print`: the words of a file and its text;
* `File.unplaced`: the file without its positions;
* `File.Printable`: what holds of a file that has been read, and what its text needs to be read
  again.
-/

namespace EnvConfig

open Reader Text

/-! ### words -/

/-- what spells a character inside of a literal -/
def escape (c : Char) : List Char :=
  if c = '\\' ∨ c = '"' then ['\\', c]
  else if c = '\n' then ['\\', 'n']
  else if c = '\r' then ['\\', 'r']
  else if c = '\t' then ['\\', 't']
  else if c = Char.ofNat 0 then ['\\', '0']
  else [c]

/-- a character spells itself, or stands behind a backslash that gives it its meaning -/
theorem escape_cases (c : Char) :
    (∃ d, escape c = ['\\', d] ∧ Grammar.escaped d = c ∧ d ≠ '\n') ∨
      (escape c = [c] ∧ c ≠ '\\' ∧ c ≠ '"' ∧ c ≠ '\n') := by
  unfold escape
  split
  · rename_i h
    refine .inl ⟨c, rfl, ?_⟩
    rcases h with rfl | rfl <;> decide
  · rename_i h
    split
    · rename_i h
      exact .inl ⟨'n', rfl, h.symm, by decide⟩
    · rename_i hfeed
      split
      · rename_i h
        exact .inl ⟨'r', rfl, h.symm, by decide⟩
      · split
        · rename_i h
          exact .inl ⟨'t', rfl, h.symm, by decide⟩
        · split
          · rename_i h
            exact .inl ⟨'0', rfl, h.symm, by decide⟩
          · rw [not_or] at h
            exact .inr ⟨rfl, h.1, h.2, hfeed⟩

def literalWord (s : String) : String :=
  String.ofList ('"' :: (s.toList.flatMap escape ++ ['"']))

def numberWord (n : Int32) : String := String.ofList (Number.decimalText n.toInt)

/-- the words of the name of an option: `name`, `(name)` or `(name).name` -/
def optionNameWords (name : String) : List String :=
  match name.toList with
  | '(' :: cs =>
    let inner := cs.takeWhile (· != ')')
    let more := (cs.dropWhile (· != ')')).drop 1
    "(" :: String.ofList inner :: ")" :: if more.isEmpty then [] else [String.ofList more]
  | _ => [name]

def Setting.words (s : Setting) : List String :=
  optionNameWords s.name ++ ["=", literalWord s.value]

/-- the words of an option of a file or message -/
def Setting.statementWords (s : Setting) : List String := "option" :: (s.words ++ [";"])

/-- the words of the options of a field -/
def settingsWords : List Setting → List String
  | [] => []
  | s :: ss => "[" :: (s.words ++ (ss.flatMap (fun s => "," :: s.words) ++ ["]"]))

def FieldType.words : FieldType → List String
  | named name => [name]
  | map key value => ["map", "<", key, ",", value, ">"]

/-- the words of a field after its label -/
def Field.labelledWords (f : Field) : List String :=
  f.type.words ++ (f.name :: "=" :: numberWord f.number :: (settingsWords f.options ++ [";"]))

def Field.words (f : Field) : List String :=
  match f.label with
  | .plain => "required" :: f.labelledWords
  | .optional => "optional" :: f.labelledWords
  | .repeated => "repeated" :: f.labelledWords
  | .oneof group => "oneof" :: group :: opening :: (f.labelledWords ++ [closing])

def Message.words (m : Message) : List String :=
  "message" :: m.name :: opening ::
    (m.options.flatMap Setting.statementWords ++ (m.fields.flatMap Field.words ++ [closing]))

def Symbol.words (s : Symbol) : List String := [s.name, "=", numberWord s.number, ";"]

def Enum.words (e : Enum) : List String :=
  "enum" :: e.name :: opening :: (e.symbols.flatMap Symbol.words ++ [closing])

def ImportKind.words : ImportKind → List String
  | ordinary => []
  | reexported => ["public"]
  | weak => ["weak"]

def Import.words (i : Import) : List String :=
  "import" :: (i.kind.words ++ [literalWord i.path, ";"])

def dialectWords (s : String) : List String := ["syntax", "=", literalWord s, ";"]

def packageWords (s : String) : List String := ["package", s, ";"]

def File.words (f : File) : List String :=
  f.dialect.toList.flatMap dialectWords ++ (f.package.toList.flatMap packageWords ++
    (f.imports.flatMap Import.words ++ (f.options.flatMap Setting.statementWords ++
      (f.messages.flatMap Message.words ++ f.enums.flatMap Enum.words))))

/-! ### texts -/

/-- what stands between two words: a line feed after a statement or brace, nothing inside of
brackets and before a comma or semicolon, and a blank otherwise -/
def gap (w next : String) : List Char :=
  if w ∈ [";", opening, closing] then ['\n']
  else if w ∈ ["(", "[", "<"] ∨ next ∈ [")", "]", "<", ">", ",", ";"] ∨
    (w = ")" ∧ next.toList.head? = some '.') then []
  else [' ']

/-- words with gaps between them and a line feed at the end -/
def layout : List String → List Char
  | [] => []
  | [w] => w.toList ++ ['\n']
  | w :: next :: ws => w.toList ++ (gap w next ++ layout (next :: ws))

def File.print (f : File) : String := String.ofList (layout f.words)

/-! ### positions -/

def Field.unplaced (f : Field) : Field := { f with position := .start }

def Message.unplaced (m : Message) : Message :=
  { m with position := .start, fields := m.fields.map Field.unplaced }

def Enum.unplaced (e : Enum) : Enum := { e with position := .start }

def File.unplaced (f : File) : File :=
  { f with messages := f.messages.map Message.unplaced, enums := f.enums.map Enum.unplaced }

/-! ### what can be printed -/

/-- the name of an option in one of its three forms -/
def IsOptionName (name : String) : Prop :=
  isTypeName name.toList ∨
    ∃ inner more : List Char, isTypeName inner ∧ (more = [] ∨ isDotSuffix more) ∧
      name = String.ofList ('(' :: (inner ++ ')' :: more))

def FieldType.Printable : FieldType → Prop
  | named name => isTypeName name.toList
  | map key value => isTypeName key.toList ∧ isTypeName value.toList

/-- an alternative field with a type `option` would be read as an option of its group -/
def Label.Suits (type : FieldType) : Label → Prop
  | oneof group => isIdentifier group.toList ∧ type ≠ .named "option"
  | _ => True

structure Field.Printable (f : Field) : Prop where
  name : isIdentifier f.name.toList
  type : f.type.Printable
  label : f.label.Suits f.type
  options : ∀ s ∈ f.options, IsOptionName s.name
  targets : f.targets = .all

structure Message.Printable (m : Message) : Prop where
  name : isIdentifier m.name.toList
  fields : ∀ f ∈ m.fields, f.Printable
  options : ∀ s ∈ m.options, IsOptionName s.name
  targets : m.targets = .all

/-- a symbol with one of these two names would be read as something else -/
structure Symbol.Printable (s : Symbol) : Prop where
  name : isIdentifier s.name.toList
  notOption : s.name ≠ "option"
  notReserved : s.name ≠ "reserved"

structure Enum.Printable (e : Enum) : Prop where
  name : isIdentifier e.name.toList
  symbols : ∀ s ∈ e.symbols, s.Printable

structure File.Printable (f : File) : Prop where
  package : ∀ p ∈ f.package, isDotted p.toList
  options : ∀ s ∈ f.options, IsOptionName s.name
  messages : ∀ m ∈ f.messages, m.Printable
  enums : ∀ e ∈ f.enums, e.Printable

end EnvConfig
