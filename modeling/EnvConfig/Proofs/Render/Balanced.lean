import EnvConfig.Proofs.Render.GoBrackets
import EnvConfig.Proofs.Render.GoImports
import EnvConfig.Proofs.Render.RustBrackets
import EnvConfig.Render.Language

/-!
# Loaders have nested brackets

In both languages a file is the code of its procedures behind a few lines, of which one, a comment,
has the name of the schema file in it.

* `Language.procedureLines_isInfix`: the code of a procedure is part of the file;
* `LoaderUnit.loaders_balanced`: the brackets of a file and of each procedure in it are nested.
-/

namespace EnvConfig

open Text

namespace Language

open Code

/-- what the lines of blocks are indented by -/
def tab : Language → String
  | rust => "    "
  | go => "\t"

/-- how far the code of procedures is indented in files -/
def depth : Language → Nat
  | rust => 1
  | go => 0

def procedureCode : Language → Procedure → List Code
  | rust => RustCode.procedureCode
  | go => GoCode.procedureCode

def loaderCode : Language → LoaderUnit → String → List Code
  | rust => RustCode.loaderCode
  | go => GoCode.loaderCode

/-- the lines of the code of a procedure behind `n` tabs -/
def procedureLines (lang : Language) (n : Nat) (p : Procedure) : List String :=
  allLines lang.tab n (lang.procedureCode p)

def loaderLines (lang : Language) (u : LoaderUnit) (module : String) : List String :=
  allLines lang.tab 0 (lang.loaderCode u module)

theorem loaders_eq (lang : Language) (u : LoaderUnit) (module : String) :
    lang.loaders u module = "\n".intercalate (lang.loaderLines u module) ++ "\n" := by
  cases lang <;> rfl

variable {lang : Language} {u : LoaderUnit} {module : String} {p : Procedure}

theorem isTab_tab (lang : Language) : IsTab lang.tab := by
  cases lang <;> exact ⟨List.all_eq_true.mp (by decide), List.all_eq_true.mp (by decide)⟩

theorem loaderLines_ne_nil : lang.loaderLines u module ≠ [] := by
  cases lang <;> exact List.cons_ne_nil _ _

/-- the code of a procedure stands together among the lines of the file -/
theorem procedureLines_isInfix (lang : Language) (hp : p ∈ u.procedures) :
    lang.procedureLines lang.depth p <:+: lang.loaderLines u module := by
  have hpart : ∀ (code : Procedure → List Code) (before : List Code),
      code p <:+: before ++ u.procedures.flatMap fun p => empty :: code p := by
    intro code before
    have hpieces : (empty :: code p) <:+: u.procedures.flatMap fun p => empty :: code p := by
      rw [List.flatMap_def]
      exact List.infix_of_mem_flatten (List.mem_map_of_mem hp)
    exact ((List.suffix_cons _ _).isInfix.trans hpieces).trans (List.suffix_append _ _).isInfix
  cases lang with
  | rust =>
    have hblock : block ("pub mod " ++ module) (_ ++ _) ∈ RustCode.loaderCode u module :=
      List.mem_of_mem_getLast? rfl
    exact (allLines_isInfix (hpart _ _)).trans (body_isInfix hblock)
  | go => exact allLines_isInfix (hpart _ _)

theorem sound_procedureCode (hmessage : isIdentifier p.message.toList = true)
    (hstatements : ∀ s ∈ p.statements, s.WellNamed) : AllSound (lang.procedureCode p) := by
  cases lang with
  | rust => exact RustCode.sound_procedureCode hmessage hstatements
  | go => exact GoCode.sound_procedureCode hmessage hstatements

theorem sound_loaderCode (hsource : '\n' ∉ u.source.toList) (hmodule : Plain module)
    (hprocedures : ∀ p ∈ u.procedures, AllSound (lang.procedureCode p)) :
    AllSound (lang.loaderCode u module) := by
  cases lang with
  | rust => exact RustCode.sound_loaderCode hsource hmodule hprocedures
  | go => exact GoCode.sound_loaderCode hsource hmodule hprocedures

end Language

/-- In the file of a unit that was emitted from parsed schemas the brackets are nested, and so they
are in the code of each procedure, which is part of the file; comments are left out.  This is so for
every name of a source on one line, and for every name of a module without brackets, line feeds and
slashes, as identifiers are. -/
theorem LoaderUnit.loaders_balanced {set : SchemaSet} {t : Target} {u : LoaderUnit}
    (hparsed : ∀ file ∈ set.files, ∃ name text, File.compile name text = .ok file)
    (hemit : LoaderUnit.emit set t = .ok u) (lang : Language) {source module : String}
    (hsource : '\n' ∉ source.toList) (hmodule : ∀ c ∈ module.toList, isPlain c = true) :
    Balanced (uncommented (lang.loaders { u with source := source } module).toList) ∧
    ∀ p ∈ u.procedures,
      lang.procedureLines lang.depth p <:+: lang.loaderLines { u with source := source } module ∧
      ∀ n, Balanced (uncommented ("\n".intercalate (lang.procedureLines n p)).toList) := by
  obtain ⟨name, text, hroot⟩ := hparsed set.root List.mem_cons_self
  have hsound : ∀ p ∈ u.procedures, Code.AllSound (lang.procedureCode p) := fun p hp =>
    Language.sound_procedureCode (isIdentifier_procedure hroot hemit hp)
      fun s hs => wellNamed hparsed hemit hp hs
  have hfile : Code.AllSound (lang.loaderCode { u with source := source } module) :=
    Language.sound_loaderCode hsource hmodule hsound
  refine ⟨?_, fun p hp => ⟨Language.procedureLines_isInfix lang hp, fun n => ?_⟩⟩
  · have hbalanced := Code.balanced_text lang.isTab_tab hfile Language.loaderLines_ne_nil
    rw [Language.loaders_eq]
    exact hbalanced
  · exact (Code.tidy_allLines lang.isTab_tab _ n (hsound p hp)).balanced

/-- the bracket in the name of the source is in a comment -/
theorem loaders_balanced_paint :
    (∀ file ∈ paintSchema.files, ∃ name text, File.compile name text = .ok file) ∧
    LoaderUnit.emit paintSchema ⟨"rust"⟩ = .ok paintUnit ∧
    '\n' ∉ "paint(1.proto".toList ∧
    (∀ c ∈ "paint".toList, isPlain c = true) ∧
    Balanced (uncommented
      (Language.rust.loaders { paintUnit with source := "paint(1.proto" } "paint").toList) := by
  have hparsed : ∀ file ∈ paintSchema.files, ∃ name text, File.compile name text = .ok file := by
    intro file hfile
    obtain rfl := List.mem_singleton.mp hfile
    exact ⟨"paint.proto", paintText, (File.compile_ofList _ _).trans (by decide +kernel)⟩
  have hemit : LoaderUnit.emit paintSchema ⟨"rust"⟩ = .ok paintUnit := by decide +kernel
  have hsource : '\n' ∉ "paint(1.proto".toList := by decide
  have hmodule : ∀ c ∈ "paint".toList, isPlain c = true := List.all_eq_true.mp (by decide)
  exact ⟨hparsed, hemit, hsource, hmodule,
    (LoaderUnit.loaders_balanced hparsed hemit .rust hsource hmodule).1⟩

end EnvConfig
