import EnvConfig.Proofs.Naming.Identifiers
import EnvConfig.Render.Language

/-!
# Names of modules

The output module is named by an option of the schema, else by its package, else by its file name.
A package is a dotted name, so that its parts are identifiers; the value of an option and the name
of a file are any text.  In Rust every character of it that no identifier has is replaced, in Go
only dashes and dots are.

* `isIdentifier_iff`: an identifier is not empty, has no other characters than names have, and has
  no digit in front;
* `RustCode.isIdentifier_moduleIdentifier`, `GoCode.isIdentifier_underscored`: what the replacement
  makes an identifier;
* `File.moduleName_legal_iff`: which files have a module name that is an identifier.
-/

namespace EnvConfig

open Text

/-! ### identifiers -/

theorem isNameStart_eq (c : Char) : isNameStart c = (isNameChar c && !c.isDigit) := by
  by_cases halpha : c.isAlpha = true
  · simp [isNameStart, isNameChar, Char.isAlphanum, halpha, Naming.isDigit_of_isAlpha halpha]
  · by_cases hmark : c = '_'
    · subst hmark
      decide
    · rw [← ne_eq, ← beq_eq_false_iff_ne] at hmark
      rw [Bool.not_eq_true] at halpha
      simp [isNameStart, isNameChar, Char.isAlphanum, halpha, hmark]

theorem isIdentifier_iff {cs : List Char} : isIdentifier cs = true ↔
    cs ≠ [] ∧ (∀ c ∈ cs, isNameChar c = true) ∧ cs.head?.any Char.isDigit = false := by
  cases cs with
  | nil => simp [isIdentifier]
  | cons c cs => simp [isIdentifier, isNameStart_eq, and_assoc, and_comm]

theorem toList_underscored (p : Char → Bool) (s : String) :
    (underscored p s).toList = s.toList.map fun c => if p c then '_' else c := String.toList_ofList

/-! ### modules in Rust -/

namespace RustCode

/-- an identifier is made from every text but the empty one -/
theorem isIdentifier_moduleIdentifier (s : String) :
    isIdentifier (moduleIdentifier s).toList = true ↔ s ≠ "" := by
  have hname : ∀ c ∈ (underscored (fun c => !(c.isAlphanum || c == '_')) s).toList,
      isNameChar c = true := by
    rw [toList_underscored, List.forall_mem_map]
    intro c _
    split
    · decide
    · rename_i h
      rwa [Bool.not_eq_true, Bool.not_eq_false'] at h
  have hempty : underscored (fun c => !(c.isAlphanum || c == '_')) s = "" ↔ s = "" := by
    rw [← String.toList_inj, ← String.toList_inj, toList_underscored]
    exact List.map_eq_nil_iff
  unfold moduleIdentifier
  simp only
  split
  · rename_i hdigit
    have hne : s ≠ "" := by
      rintro rfl
      cases hdigit
    rw [String.toList_append, isIdentifier_iff]
    refine iff_of_true ⟨by simp, ?_, by simp⟩ hne
    exact List.forall_mem_append.mpr ⟨List.all_eq_true.mp (by decide), hname⟩
  · rename_i hdigit
    rw [Bool.not_eq_true] at hdigit
    rw [isIdentifier_iff, and_iff_left ⟨hname, hdigit⟩, ne_eq, String.toList_eq_nil_iff, hempty]

end RustCode

/-! ### modules in Go -/

namespace GoCode

/-- the text is an identifier but for dashes and dots in it -/
structure IsPackageText (s : String) : Prop where
  ne_empty : s ≠ ""
  chars : ∀ c ∈ s.toList, isNameChar c = true ∨ isDashOrDot c = true
  head : s.toList.head?.any Char.isDigit = false

theorem isIdentifier_underscored (s : String) :
    isIdentifier (underscored isDashOrDot s).toList = true ↔ IsPackageText s := by
  have hchar : ∀ c, isNameChar (if isDashOrDot c then '_' else c) = true ↔
      isNameChar c = true ∨ isDashOrDot c = true := by
    intro c
    have hmark : isNameChar '_' = true := by decide
    by_cases h : isDashOrDot c = true <;> simp [h, hmark]
  have hdigit : ∀ c, (if isDashOrDot c then '_' else c).isDigit = c.isDigit := by
    intro c
    by_cases h : isDashOrDot c = true
    · have hcases : c = '-' ∨ c = '.' := by simpa [isDashOrDot] using h
      rw [if_pos h]
      obtain rfl | rfl := hcases <;> decide
    · rw [if_neg h]
  rw [toList_underscored, isIdentifier_iff, List.forall_mem_map, List.head?_map, Option.any_map]
  simp only [ne_eq, List.map_eq_nil_iff, String.toList_eq_nil_iff, hchar, hdigit]
  exact ⟨fun ⟨hne, hchars, hhead⟩ => ⟨hne, hchars, hhead⟩,
    fun h => ⟨h.ne_empty, h.chars, h.head⟩⟩

end GoCode

/-! ### modules of schema files -/

theorem File.isDotted_package {name text : String} {f : File}
    (h : File.compile name text = .ok f) {package : String} (hpackage : f.package = some package) :
    isDotted package.toList = true := by
  obtain ⟨read, hprintable, rfl⟩ := exists_printable_of_compile h
  exact hprintable.package package hpackage

/-- the last part of a package is an identifier -/
theorem isIdentifier_lastSegment {package : List Char} (h : isDotted package = true) :
    isIdentifier (lastSegment (· == '.') package) = true :=
  List.all_eq_true.mp h _ (lastSegment_mem _ _)

theorem underscored_ne_empty {p : Char → Bool} {s : String} (h : s ≠ "") :
    underscored p s ≠ "" := by
  rw [ne_eq, ← String.toList_inj, toList_underscored] at *
  simpa using h

/-- The name of the output module is an identifier whenever it comes from the package.  Otherwise it
is one in Rust unless the option, or the file name without its ending, is empty; and in Go exactly
if the end of the option, or the file name without its ending, is an identifier but for dashes and
dots. -/
theorem File.moduleName_legal_iff {name text : String} {f : File}
    (h : File.compile name text = .ok f) :
    (isIdentifier (Language.rust.moduleName f).toList = true ↔
      match f.option? Language.rust.packageOption, f.package with
      | some value, _ => value ≠ ""
      | none, some _ => True
      | none, none => f.stem ≠ "") ∧
    (isIdentifier (Language.go.moduleName f).toList = true ↔
      match f.option? Language.go.packageOption, f.package with
      | some path, _ => GoCode.IsPackageText (GoCode.packageAt path)
      | none, some _ => True
      | none, none => GoCode.IsPackageText f.stem) := by
  constructor
  · simp only [Language.moduleName, RustCode.moduleName]
    cases f.option? Language.rust.packageOption with
    | some value => exact RustCode.isIdentifier_moduleIdentifier value
    | none =>
      cases hpackage : f.package with
      | none => exact RustCode.isIdentifier_moduleIdentifier f.stem
      | some package =>
        have hne : package ≠ "" := by
          rintro rfl
          exact absurd (isDotted_package h hpackage) (by decide)
        refine iff_of_true ?_ trivial
        exact (RustCode.isIdentifier_moduleIdentifier _).mpr (underscored_ne_empty hne)
  · simp only [Language.moduleName, GoCode.moduleName]
    cases f.option? Language.go.packageOption with
    | some path => exact GoCode.isIdentifier_underscored (GoCode.packageAt path)
    | none =>
      cases hpackage : f.package with
      | none => exact GoCode.isIdentifier_underscored f.stem
      | some package =>
        refine iff_of_true ?_ trivial
        rw [String.toList_ofList]
        exact isIdentifier_lastSegment (isDotted_package h hpackage)

/-- a schema with options for both languages -/
def optionsText : String :=
  "package acme; option go_package = \"agent-config/v1.2\"; option rust_package = \"agent config\";"

def optionsFile : File :=
  { File.empty "agent.proto" with
    package := some "acme"
    options := [⟨"go_package", "agent-config/v1.2"⟩, ⟨"rust_package", "agent config"⟩] }

theorem moduleName_legal_options :
    File.compile "agent.proto" optionsText = .ok optionsFile ∧
    Language.rust.moduleName optionsFile = "agent_config" ∧
    Language.go.moduleName optionsFile = "v1_2" ∧
    isIdentifier (Language.rust.moduleName optionsFile).toList = true ∧
    isIdentifier (Language.go.moduleName optionsFile).toList = true := by
  have hcompile : File.compile "agent.proto" optionsText = .ok optionsFile :=
    (File.compile_ofList _ _).trans (by decide +kernel)
  have hpath : GoCode.packageAt "agent-config/v1.2" = "v1.2" := by decide +kernel
  obtain ⟨hrust, hgo⟩ := File.moduleName_legal_iff hcompile
  refine ⟨hcompile, by decide +kernel, by decide +kernel, hrust.mpr ?_, hgo.mpr ?_⟩
  · show "agent config" ≠ ""
    decide
  · show GoCode.IsPackageText (GoCode.packageAt "agent-config/v1.2")
    rw [hpath]
    have hchars : "v1.2".toList.all (fun c => isNameChar c || isDashOrDot c) = true := by
      decide
    exact ⟨by decide, fun c hc => Bool.or_eq_true_iff.mp (List.all_eq_true.mp hchars c hc),
      by decide⟩

/-- The name of a file with a digit in front and a blank in it is made an identifier in Rust and not
in Go; and from an empty option none is made in Rust either. -/
theorem moduleName_illegal :
    File.compile "1st config.proto" "" = .ok (File.empty "1st config.proto") ∧
    Language.rust.moduleName (File.empty "1st config.proto") = "_1st_config" ∧
    Language.go.moduleName (File.empty "1st config.proto") = "1st config" ∧
    isIdentifier (Language.go.moduleName (File.empty "1st config.proto")).toList = false ∧
    File.compile "config.proto" "option rust_package = \"\";" =
      .ok { File.empty "config.proto" with options := [⟨"rust_package", ""⟩] } ∧
    Language.rust.moduleName
      { File.empty "config.proto" with options := [⟨"rust_package", ""⟩] } = "" := by
  refine ⟨by decide +kernel, by decide +kernel, by decide +kernel, by decide +kernel,
    by decide +kernel, by decide +kernel⟩

end EnvConfig
