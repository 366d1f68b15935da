import EnvConfig.Formatter
import EnvConfig.Render.Language
import EnvConfig.Verification

/-!
# Generating a file of loaders

A schema is verified, its procedures are emitted for a target, and they are printed in a language.
The text can then be passed through the formatter of the language; when formatting fails, the text
stays as it was printed.
-/

namespace EnvConfig

open Text

/-- the formatter of a language -/
def Language.formatter : Language → Command
  | rust => ⟨"rustfmt", ["--edition", "2021", "--emit", "stdout"]⟩
  | go => ⟨"gofmt", []⟩

inductive GenerationError where
  | violation (v : Violation)
  | emission (e : EmitError)
deriving Repr, DecidableEq

def GenerationError.message : GenerationError → String
  | violation v => v.message
  | emission e => e.message

structure Generated where
  fileName : String
  module : String
  content : String
deriving Repr, DecidableEq

/-- the file of loaders of a schema for a target; `format` may fail -/
def SchemaSet.generate (set : SchemaSet) (l : Language) (t : Target)
    (format : String → Except FormatError String) : Except GenerationError Generated :=
  match set.verify with
  | .error v => .error (.violation v)
  | .ok () =>
    match LoaderUnit.emit set t with
    | .error e => .error (.emission e)
    | .ok unit =>
      let module := l.moduleName set.root
      let text := l.loaders unit module
      let content := match format text with
        | .ok formatted => formatted
        | .error _ => text
      .ok ⟨outputFile set.root.name l.suffix, module, content⟩

theorem SchemaSet.fileName_of_generate {set : SchemaSet} {l : Language} {t : Target}
    {format : String → Except FormatError String} {file : Generated}
    (h : set.generate l t format = .ok file) :
    file.fileName = outputFile set.root.name l.suffix := by
  unfold generate at h
  split at h
  · cases h
  · split at h
    · cases h
    · cases h
      rfl

end EnvConfig
