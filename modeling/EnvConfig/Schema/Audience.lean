import EnvConfig.Grammar.Declaration
import EnvConfig.Lexical.Scan

/-!
# What a message or field is meant for

The option `(targets)` lists the targets of a message or field.  Without it the names decide: a
field's own name first, then the name of its type.

* `File.assigned`: the file with the targets of everything in it;
* `File.compile`: a text read, with its targets.
-/

namespace EnvConfig

open Text

def targetsOption : String := "(targets)"

/-- the name of a type without its package; a map has no name -/
def FieldType.baseName? : FieldType → Option String
  | .named name => some (String.ofList (lastSegment (· == '.') name.toList))
  | .map _ _ => none

def targetsOf (options : List Setting) (names : List String) : Targets :=
  match setting? options targetsOption with
  | some text => .ofList text
  | none => .ofNames names

def Field.assigned (f : Field) : Field :=
  { f with targets := targetsOf f.options (f.name :: f.type.baseName?.toList) }

def Message.assigned (m : Message) : Message :=
  { m with targets := targetsOf m.options [m.name], fields := m.fields.map Field.assigned }

def File.assigned (f : File) : File := { f with messages := f.messages.map Message.assigned }

/-- the file `name` with the given text, targets included -/
def File.compile (name text : String) : Except ParseError File :=
  (Tokens.scan text).bind fun ts => (File.ofTokens name ts).map File.assigned

theorem File.compile_of_scan {name text : String} {ts : Tokens} (h : Tokens.scan text = .ok ts) :
    compile name text = (ofTokens name ts).map assigned := by
  rw [compile, h]
  rfl

/-- a text is read from its characters, however they are put together -/
theorem File.compile_ofList (name : String) (cs : List Char) : compile name (String.ofList cs) =
    (Tokens.scanFrom .start cs).bind fun ts => (ofTokens name ts).map assigned := by
  rw [compile, Tokens.scan, String.toList_ofList]

theorem File.name_of_compile {name text : String} {f : File}
    (h : File.compile name text = .ok f) : f.name = name := by
  unfold compile at h
  cases hs : Tokens.scan text with
  | error e => rw [hs] at h; cases h
  | ok ts =>
    rw [hs] at h
    cases hread : ofTokens name ts with
    | error e => simp [Except.bind, Except.map, hread] at h
    | ok g =>
      simp only [Except.bind, Except.map, hread, Except.ok.injEq] at h
      subst h
      show g.name = name
      exact name_of_ofTokens hread

/-- a file imports the same whatever name it is compiled under -/
theorem File.imports_of_compile {name text : String} {f : File} (other : String)
    (h : File.compile name text = .ok f) :
    ∃ g, File.compile other text = .ok g ∧ g.imports = f.imports := by
  unfold compile ofTokens at *
  cases hs : Tokens.scan text with
  | error e => rw [hs] at h; cases h
  | ok ts =>
    rw [hs] at h
    cases hc : contents ts with
    | error e => simp [Except.bind, Except.map, hc] at h
    | ok c =>
      simp only [Except.bind, Except.map, hc, Except.ok.injEq] at h
      exact ⟨File.assigned { c with name := other }, by simp [Except.bind, Except.map, hc], by
        rw [← h]; rfl⟩

end EnvConfig
