import EnvConfig.Proofs.Naming.GoScope
import EnvConfig.Proofs.Render.GoFile
import EnvConfig.Proofs.Render.GoReferences
import EnvConfig.Render.Language

/-!
# Imports of Go loaders

A file in Go is refused if it imports a package that it does not use, and if it uses one that it
does not import.  What a loader imports is decided from the kinds of its statements.  But before
these imports stand the names of the schema and of the module, which can be any text: with line
feeds in it, a name becomes code, and can have imports in it.

* `GoCode.header`: the text before the imports;
* `GoCode.reads_groupLines`, `GoCode.reads_procedureLines`: behind it, as many imports are read as
  there are packages that the statements call for, and no more;
* `LoaderUnit.go_imports_exact_iff`: these are exactly the packages that the statements refer to, so
  that the imports of a file are right if and only if none of the packages is in the header.
-/

namespace EnvConfig

open Text

namespace GoCode

open Code Naming GoFile

/-! ### packages -/

/-- the package as it is written -/
def Package.spec : Package → String
  | fmt => "\"fmt\""
  | strings => "\"strings\""
  | wrappers => "wrappers \"github.com/golang/protobuf/ptypes/wrappers\""

/-- and as it is read -/
def Package.imported : Package → Imported
  | fmt => ⟨"", "fmt"⟩
  | strings => ⟨"", "strings"⟩
  | wrappers => ⟨"wrappers", "github.com/golang/protobuf/ptypes/wrappers"⟩

theorem imported_injective : Function.Injective Package.imported := by
  rintro (_ | _ | _) (_ | _ | _) <;> decide

/-- how often the package is imported, under whatever name -/
def Package.countIn (k : Package) (is : List Imported) : Nat :=
  is.countP fun i => i.path == k.imported.path

/-- the packages that the statements of a unit call for -/
def usedPackages (u : LoaderUnit) : List Package :=
  Package.all.filter fun k => (u.procedures.flatMap (·.statements)).any k.usedBy

theorem nodup_usedPackages (u : LoaderUnit) : (usedPackages u).Nodup :=
  (by decide : Package.all.Nodup).filter _

theorem mem_usedPackages {u : LoaderUnit} {k : Package} :
    k ∈ usedPackages u ↔ ∃ p ∈ u.procedures, ∃ s ∈ p.statements, k.usedBy s = true := by
  rw [usedPackages, List.mem_filter, List.any_eq_true]
  constructor
  · rintro ⟨-, s, hs, hused⟩
    obtain ⟨p, hp, hs⟩ := List.mem_flatMap.mp hs
    exact ⟨p, hp, s, hs, hused⟩
  · rintro ⟨p, hp, s, hs, hused⟩
    exact ⟨k.mem_all, s, List.mem_flatMap.mpr ⟨p, hp, hs⟩, hused⟩

/-- the packages are imported in this order -/
theorem importLines_eq (u : LoaderUnit) : importLines u = (usedPackages u).map Package.spec := by
  simp only [importLines, usedPackages, Package.all, List.filter_cons, Package.usedBy,
    List.filter_nil]
  generalize (u.procedures.flatMap (·.statements)).any readsSymbols = symbols
  generalize (u.procedures.flatMap (·.statements)).any makesWrappers = messages
  cases symbols <;> cases messages <;> rfl

theorem countIn_append (k : Package) (is js : List Imported) :
    k.countIn (is ++ js) = k.countIn is + k.countIn js := List.countP_append

/-- packages that differ have different paths -/
theorem countIn_imported {ks : List Package} (hnodup : ks.Nodup) (k : Package) :
    k.countIn (ks.map Package.imported) = if k ∈ ks then 1 else 0 := by
  have hpath : ∀ k' : Package, (k'.imported.path == k.imported.path) = (k' == k) := by
    intro k'
    cases k' <;> cases k <;> decide
  rw [Package.countIn, List.countP_map, ← hnodup.count, List.count]
  exact List.countP_congr fun k' _ => by rw [Function.comp, hpath]

/-! ### the lines of a file -/

/-- the lines of the file of a unit -/
def loaderLines (u : LoaderUnit) (module : String) : List String :=
  allLines "\t" 0 (loaderCode u module)

/-- the lines before the imports -/
def headerLines (source module : String) : List String :=
  ["// Code generated by protoenv. DO NOT EDIT.", "// source: " ++ source, "", "package " ++ module]

/-- the text before the imports -/
def header (source module : String) : String := "\n".intercalate (headerLines source module)

/-- the lines with the imports -/
def groupLines (specs : List String) : List String :=
  if specs.isEmpty then [] else ["", "import ("] ++ specs.map ("\t" ++ ·) ++ [")"]

/-- the lines with the loaders -/
def procedureLines (u : LoaderUnit) : List String :=
  allLines "\t" 0 (u.procedures.flatMap fun p => empty :: procedureCode p)

theorem loaderLines_eq (u : LoaderUnit) (module : String) : loaderLines u module =
    headerLines u.source module ++ (groupLines (importLines u) ++ procedureLines u) := by
  have hheader : allLines "\t" 0 [line "// Code generated by protoenv. DO NOT EDIT.",
      line ("// source: " ++ u.source), empty, line ("package " ++ module)] =
      headerLines u.source module := by
    simp only [allLines, lines, indentation_zero]
    rfl
  have hspecs : ∀ specs : List String,
      allLines "\t" 1 (specs.map line) = specs.map ("\t" ++ ·) := by
    intro specs
    rw [allLines_eq_flatMap, List.flatMap_map]
    exact List.flatMap_pure_eq_map _ _
  have hgroup : allLines "\t" 0 (if (importLines u).isEmpty then []
      else [empty, group "import" ((importLines u).map line)]) = groupLines (importLines u) := by
    rw [groupLines]
    split
    · rfl
    · simp only [allLines, lines, hspecs, indentation_zero, List.append_nil]
      rfl
  rw [loaderLines, loaderCode, allLines_append, allLines_append, hheader, hgroup, procedureLines,
    List.append_assoc]

theorem loaderLines_ne_nil (u : LoaderUnit) (module : String) : loaderLines u module ≠ [] :=
  List.cons_ne_nil _ _

/-- the text of a file goes on with a new line behind the header -/
theorem header_isPrefix (u : LoaderUnit) (module : String) :
    (header u.source module).toList ++ ['\n'] <+: (loaders u module).toList := by
  have hlines : allLines "\t" 0 (loaderCode u module) = loaderLines u module := rfl
  rw [loaders, toList_text, hlines, loaderLines_eq, List.map_append, header, toList_lines]
  generalize groupLines (importLines u) ++ procedureLines u = rest
  cases rest with
  | nil =>
    rw [List.map_nil, List.append_nil]
  | cons l rest =>
    have hheader : (headerLines u.source module).map String.toList ≠ [] := List.cons_ne_nil _ _
    rw [List.map_cons, join_append '\n' hheader (List.cons_ne_nil _ _), List.append_assoc]
    exact (List.prefix_append_right_inj _).mpr ⟨_, rfl⟩

theorem tokens_loaders (u : LoaderUnit) (module : String) : tokens (loaders u module).toList =
    tokens (header u.source module).toList ++
      ((groupLines (importLines u)).flatMap (tokens ·.toList) ++
        (procedureLines u).flatMap (tokens ·.toList)) := by
  have htext : (loaders u module).toList =
      ("\n".intercalate (loaderLines u module)).toList ++ '\n' :: [] := String.toList_append
  have hempty : tokens [] = [] := rfl
  have hheader : headerLines u.source module ≠ [] := List.cons_ne_nil _ _
  rw [htext, tokens_append_cons, hempty, List.append_nil,
    tokens_lines (loaderLines_ne_nil u module), loaderLines_eq, List.flatMap_append,
    List.flatMap_append, header, tokens_lines hheader]

/-- the code of a statement stands together among the lines of the file -/
theorem statementLines_isInfix {u : LoaderUnit} {p : Procedure} {s : Statement}
    (hp : p ∈ u.procedures) (hs : s ∈ p.statements) (module : String) :
    statementLines s <:+: loaderLines u module := by
  have hbody : statementCode s <:+: loaderBody p :=
    (isInfix_separated (List.mem_map_of_mem hs)).trans (List.prefix_append _ _).isInfix
  have hblock : block (loaderHead (fieldName p.message)) (loaderBody p) ∈ loaderCode u module := by
    obtain ⟨comment, hcode⟩ := procedureCode_eq p
    refine List.mem_append_right _ (List.mem_flatMap.mpr ⟨p, hp, List.mem_cons_of_mem _ ?_⟩)
    rw [hcode]
    exact List.mem_append_left _ (List.mem_cons_of_mem _ List.mem_cons_self)
  exact (allLines_isInfix hbody).trans (body_isInfix hblock)

theorem oneLine_statementLines {s : Statement} (hs : s.WellNamed) :
    ∀ l ∈ statementLines s, '\n' ∉ l.toList := by
  -- no statement calls for all packages, and to be absent from a line is to leave it one line
  have hunused : ∃ k : Package, k.usedBy s = false := by
    cases s with
    | enum | enumList => exact ⟨.wrappers, rfl⟩
    | scalar | wrapper | nested | mergeMap => exact ⟨.fmt, rfl⟩
  obtain ⟨k, hused⟩ := hunused
  exact fun l hl => (absent_allLines (absent_statementCode hs hused) l hl).oneLine

/-! ### what is read -/

theorem reads_spec (k : Package) :
    Reads (.importing true) (tokens ("\t" ++ k.spec).toList) (.importing true) [k.imported] := by
  cases k <;> exact ⟨by decide +kernel, by decide +kernel⟩

theorem reads_specs (ks : List Package) : Reads (.importing true)
    ((ks.map fun k => "\t" ++ k.spec).flatMap (tokens ·.toList)) (.importing true)
    (ks.map Package.imported) := by
  induction ks with
  | nil => exact .nil
  | cons k ks ih => exact (reads_spec k).append ih

/-- the imports of a unit are read as they are written -/
theorem reads_groupLines (ks : List Package) :
    Reads .ready ((groupLines (ks.map Package.spec)).flatMap (tokens ·.toList)) .ready
      (ks.map Package.imported) := by
  cases ks with
  | nil => exact .nil
  | cons k ks =>
    have hopen : Reads .ready (["", "import ("].flatMap (tokens ·.toList)) (.importing true) [] :=
      ⟨by decide, by decide⟩
    have hclose : Reads (.importing true) ([")"].flatMap (tokens ·.toList)) .ready [] :=
      ⟨by decide, by decide⟩
    have hlines : groupLines ((k :: ks).map Package.spec) =
        ["", "import ("] ++ ((k :: ks).map fun k => "\t" ++ k.spec) ++ [")"] := by
      rw [groupLines, if_neg (by simp), List.map_map]
      rfl
    have hgroup := (hopen.append (reads_specs (k :: ks))).append hclose
    rw [List.nil_append, List.append_nil] at hgroup
    rw [hlines, List.flatMap_append, List.flatMap_append]
    exact hgroup

/-- the code of the first loader begins with a comment and a function -/
theorem exists_procedureLines {u : LoaderUnit} {p : Procedure} {ps : List Procedure}
    (h : u.procedures = p :: ps) : ∃ comment ls,
      procedureLines u = "" :: comment :: (loaderHead (fieldName p.message) ++ " \x7b") :: ls ∧
      tokens comment.toList = [] := by
  have hcode : ∃ code, ((p :: ps).flatMap fun p => empty :: procedureCode p) =
      empty :: line ("// loadFromEnv loads the data from env vars, defaults and makes sure all " ++
        "values are initialized.") ::
      block (loaderHead (fieldName p.message)) (loaderBody p) :: code := ⟨_, rfl⟩
  obtain ⟨code, hcode⟩ := hcode
  rw [procedureLines, h, hcode, allLines, allLines, allLines, lines, lines, lines_block,
    String.append_empty, indentation_zero, indentation_zero]
  exact ⟨_, _, rfl, by decide +kernel⟩

theorem reads_loaderHead (type : String) :
    Reads .ready (tokens (loaderHead type ++ " \x7b").toList) .code [] := by
  have hword : ∃ cs, (loaderHead type ++ " \x7b").toList = "func".toList ++ ' ' :: cs := by
    simp only [loaderHead, String.toList_append, List.append_assoc]
    exact ⟨_, rfl⟩
  obtain ⟨cs, hcs⟩ := hword
  obtain ⟨ts, hts⟩ := exists_tokens_word (by decide : isIdentifier "func".toList = true) cs
  rw [hcs, hts]
  exact .cons (reads_code ts)

/-- nothing is imported behind the imports of a unit -/
theorem reads_procedureLines (u : LoaderUnit) : ∃ phase, (phase = .ready ∨ phase = .code) ∧
    Reads .ready ((procedureLines u).flatMap (tokens ·.toList)) phase [] := by
  cases hprocedures : u.procedures with
  | nil =>
    rw [procedureLines, hprocedures]
    exact ⟨.ready, .inl rfl, .nil⟩
  | cons p ps =>
    obtain ⟨comment, ls, hlines, hcomment⟩ := exists_procedureLines hprocedures
    have hempty : tokens "".toList = [] := rfl
    refine ⟨.code, .inr rfl, ?_⟩
    rw [hlines, List.flatMap_cons, List.flatMap_cons, List.flatMap_cons, hempty, hcomment,
      List.nil_append, List.nil_append]
    exact (reads_loaderHead _).append (reads_code _)

/-- what is written behind the header, read on its own -/
theorem exists_tokens_loaders (u : LoaderUnit) (module : String) : ∃ ts phase,
    tokens (loaders u module).toList = tokens (header u.source module).toList ++ ts ∧
    (phase = .ready ∨ phase = .code) ∧
    Reads .ready ts phase ((usedPackages u).map Package.imported) := by
  obtain ⟨phase, hphase, hprocedures⟩ := reads_procedureLines u
  have hgroup := reads_groupLines (usedPackages u)
  rw [← importLines_eq] at hgroup
  have hread := hgroup.append hprocedures
  rw [List.append_nil] at hread
  exact ⟨_, phase, tokens_loaders u module, hphase, hread⟩

/-- the imports of the file of a unit -/
theorem imports?_loaders {u : LoaderUnit} {module : String} {is : List Imported}
    (h : opening? (header u.source module).toList = some is) :
    imports? (loaders u module).toList = some (is ++ (usedPackages u).map Package.imported) := by
  obtain ⟨ts, phase, htokens, hphase, hread⟩ := exists_tokens_loaders u module
  exact imports?_of_opening? h htokens hread hphase

/-- the header has no imports in it if the names are what they should be -/
theorem opening?_header {source module : String} (hsource : '\n' ∉ source.toList)
    (hmodule : isName module = true) : opening? (header source module).toList = some [] := by
  have hclause : Reads .start [.word "package", .word module, .mark ';'] .ready [] := by
    constructor
    · simp [GoFile.phaseAfter, Phase.next, hmodule]
    · simp [importsFrom, Phase.next, Phase.imported?, hmodule]
  have hfirst : tokens "// Code generated by protoenv. DO NOT EDIT.".toList = [] := by
    decide +kernel
  have hsecond : tokens ("// source: " ++ source).toList = [] := by
    have hline : '\n' ∉ " source: ".toList ++ source.toList := by
      rw [List.mem_append]
      exact not_or.mpr ⟨by decide, hsource⟩
    rw [String.toList_append]
    exact tokens_comment hline
  have hthird : tokens "".toList = [] := rfl
  rw [opening?_eq_some, header, headerLines, tokens_lines (List.cons_ne_nil _ _),
    List.flatMap_cons, List.flatMap_cons, List.flatMap_cons, List.flatMap_singleton, hfirst,
    hsecond, hthird, tokens_clause hmodule]
  exact hclause

end GoCode

/-- the code of a statement of the unit refers to the package -/
def LoaderUnit.GoRefersTo (u : LoaderUnit) (k : GoCode.Package) : Prop :=
  ∃ p ∈ u.procedures, ∃ s ∈ p.statements, ∃ l ∈ GoCode.statementLines s, k.ReferredIn l

/-- The text is a file that imports each package at most once, and exactly if the code of the unit
refers to it. -/
def LoaderUnit.GoImportsExact (u : LoaderUnit) (text : String) : Prop :=
  ∃ is, GoFile.imports? text.toList = some is ∧
    ∀ k : GoCode.Package, k.countIn is ≤ 1 ∧ (k.countIn is ≠ 0 ↔ u.GoRefersTo k)

namespace GoCode

open Naming GoFile

variable {u : LoaderUnit} {k : Package}

/-- a unit refers to the packages that its statements call for -/
theorem mem_usedPackages_iff (hnamed : ∀ p ∈ u.procedures, ∀ s ∈ p.statements, s.WellNamed) :
    k ∈ usedPackages u ↔ u.GoRefersTo k := by
  rw [mem_usedPackages]
  refine exists_congr fun p => and_congr_right fun hp => exists_congr fun s => ?_
  exact and_congr_right fun hs => (exists_reference_iff (hnamed p hp s hs)).symm

/-- it is enough that a package stands before a dot -/
theorem goRefersTo_iff_qualifiers (hnamed : ∀ p ∈ u.procedures, ∀ s ∈ p.statements, s.WellNamed) :
    u.GoRefersTo k ↔ ∃ p ∈ u.procedures, ∃ s ∈ p.statements, ∃ l ∈ statementLines s,
      k.name ∈ Code.qualifiers l := by
  refine exists_congr fun p => and_congr_right fun hp => exists_congr fun s => ?_
  refine and_congr_right fun hs => ⟨fun ⟨l, hl, h⟩ => ⟨l, hl, h.mem_qualifiers⟩, ?_⟩
  rintro ⟨l, hl, h⟩
  exact exists_reference (usedBy_of_mem_qualifiers (hnamed p hp s hs) hl h)

/-- behind the imports of a header, those of a unit are right if the header has none of them -/
theorem goImportsExact_iff (hnamed : ∀ p ∈ u.procedures, ∀ s ∈ p.statements, s.WellNamed)
    {module : String} {is : List Imported}
    (hopening : opening? (header u.source module).toList = some is) :
    u.GoImportsExact (loaders u module) ↔ ∀ k : Package, k.countIn is = 0 := by
  have hcount : ∀ k : Package, k.countIn (is ++ (usedPackages u).map Package.imported) =
      k.countIn is + if k ∈ usedPackages u then 1 else 0 := by
    intro k
    rw [countIn_append, countIn_imported (nodup_usedPackages u)]
  constructor
  · rintro ⟨js, himports, hexact⟩ k
    rw [imports?_loaders hopening, Option.some.injEq] at himports
    subst himports
    obtain ⟨honce, hrefers⟩ := hexact k
    rw [hcount, ← mem_usedPackages_iff hnamed] at hrefers
    rw [hcount] at honce
    by_cases hused : k ∈ usedPackages u
    · rw [if_pos hused] at honce
      omega
    · rw [if_neg hused] at hrefers
      exact not_not.mp fun hne => hused (hrefers.mp hne)
  · refine fun hnone => ⟨_, imports?_loaders hopening, fun k => ?_⟩
    rw [hcount, hnone k, ← mem_usedPackages_iff hnamed]
    by_cases hused : k ∈ usedPackages u
    · simp [hused]
    · simp [hused]

end GoCode

/-- The file of a unit has a header, whose source and module may be any text, and the code of all
statements between its line feeds.  Behind the header it imports exactly the packages that the code
refers to, each once.  If the header is a package clause and imports, the file has both, and so it
imports what it needs exactly if none of the packages is imported in the header; which is the case
if the source is one line and the module a name. -/
theorem LoaderUnit.go_imports_exact_iff {set : SchemaSet} {t : Target} {u : LoaderUnit}
    (hparsed : ∀ file ∈ set.files, ∃ name text, File.compile name text = .ok file)
    (hemit : LoaderUnit.emit set t = .ok u) (module : String) :
    let text := (GoCode.loaders u module).toList
    let header := (GoCode.header u.source module).toList
    header ++ ['\n'] <+: text ∧
    (∀ p ∈ u.procedures, ∀ s ∈ p.statements,
      (GoCode.statementLines s).map String.toList <:+: segments '\n' text) ∧
    (∀ k : GoCode.Package, u.GoRefersTo k ↔ ∃ p ∈ u.procedures, ∃ s ∈ p.statements,
      ∃ l ∈ GoCode.statementLines s, k.name ∈ Code.qualifiers l) ∧
    (∃ used : List GoCode.Package, used.Nodup ∧ (∀ k, k ∈ used ↔ u.GoRefersTo k) ∧
      (∃ ts, GoFile.tokens text = GoFile.tokens header ++ ts ∧
        GoFile.importsFrom .ready ts = used.map GoCode.Package.imported) ∧
      ∀ is, GoFile.opening? header = some is →
        GoFile.imports? text = some (is ++ used.map GoCode.Package.imported) ∧
        (u.GoImportsExact (GoCode.loaders u module) ↔ ∀ k : GoCode.Package, k.countIn is = 0)) ∧
    ('\n' ∉ u.source.toList → GoFile.isName module = true →
      GoFile.opening? header = some [] ∧ u.GoImportsExact (GoCode.loaders u module)) := by
  have hnamed : ∀ p ∈ u.procedures, ∀ s ∈ p.statements, s.WellNamed :=
    fun p hp s hs => wellNamed hparsed hemit hp hs
  refine ⟨GoCode.header_isPrefix u module, fun p hp s hs => ?_,
    fun k => GoCode.goRefersTo_iff_qualifiers hnamed,
    ⟨GoCode.usedPackages u, GoCode.nodup_usedPackages u,
      fun k => GoCode.mem_usedPackages_iff hnamed, ?_,
      fun is his => ⟨GoCode.imports?_loaders his, GoCode.goImportsExact_iff hnamed his⟩⟩,
    fun hsource hmodule => ?_⟩
  · exact Code.isInfix_segments_text (GoCode.loaderLines_ne_nil u module)
      (GoCode.statementLines_isInfix hp hs module)
      (GoCode.oneLine_statementLines (hnamed p hp s hs))
  · obtain ⟨ts, phase, htokens, -, hread⟩ := GoCode.exists_tokens_loaders u module
    exact ⟨ts, htokens, hread.importsFrom⟩
  · have hopening := GoCode.opening?_header hsource hmodule
    exact ⟨hopening, (GoCode.goImportsExact_iff hnamed hopening).mpr fun k => rfl⟩

/-- a message with an enum in it, and without wrapper messages -/
def paintText : String :=
  "message Paint { repeated Color colors = 1; string name = 2; } enum Color { RED = 0; }"

def paintSchema : SchemaSet where
  root := { File.empty "paint.proto" with
    messages := [⟨"Paint", ⟨1, 9⟩,
      [⟨"colors", ⟨1, 32⟩, .named "Color", 1, .repeated, [], .all⟩,
        ⟨"name", ⟨1, 51⟩, .named "string", 2, .plain, [], .all⟩], [], .all⟩]
    enums := [⟨"Color", ⟨1, 68⟩, [⟨"RED", 0⟩]⟩] }
  imports := []

def paintUnit : LoaderUnit where
  source := "paint.proto"
  procedures := [⟨"Paint", [.enumList ⟨"colors", "COLORS"⟩ ⟨"Color", [⟨"RED", 0⟩]⟩,
    .scalar ⟨"name", "NAME"⟩ .string]⟩]

theorem go_imports_exact_iff_paint :
    (∀ file ∈ paintSchema.files, ∃ name text, File.compile name text = .ok file) ∧
    LoaderUnit.emit paintSchema ⟨"go"⟩ = .ok paintUnit ∧
    GoFile.imports? (GoCode.loaders paintUnit "paint").toList =
      some [⟨"", "fmt"⟩, ⟨"", "strings"⟩] ∧
    paintUnit.GoRefersTo .strings ∧ ¬ paintUnit.GoRefersTo .wrappers := by
  have hparsed : ∀ file ∈ paintSchema.files, ∃ name text, File.compile name text = .ok file := by
    intro file hfile
    obtain rfl := List.mem_singleton.mp hfile
    exact ⟨"paint.proto", paintText, (File.compile_ofList _ _).trans (by decide +kernel)⟩
  have hemit : LoaderUnit.emit paintSchema ⟨"go"⟩ = .ok paintUnit := by decide +kernel
  obtain ⟨-, -, -, ⟨used, -, hused, -, hexact⟩, hplain⟩ :=
    LoaderUnit.go_imports_exact_iff hparsed hemit "paint"
  obtain ⟨hopening, -⟩ := hplain (by decide) (by decide +kernel)
  obtain ⟨himports, -⟩ := hexact [] hopening
  have hread : GoFile.imports? (GoCode.loaders paintUnit "paint").toList =
      some [⟨"", "fmt"⟩, ⟨"", "strings"⟩] := GoCode.imports?_loaders hopening
  rw [hread, List.nil_append, Option.some.injEq] at himports
  have hmem : ∀ k : GoCode.Package,
      k.imported ∈ [(⟨"", "fmt"⟩ : GoFile.Imported), ⟨"", "strings"⟩] ↔ paintUnit.GoRefersTo k := by
    intro k
    rw [himports, List.mem_map_of_injective GoCode.imported_injective]
    exact hused k
  exact ⟨hparsed, hemit, hread, (hmem .strings).mp (by decide),
    fun hrefers => absurd ((hmem .wrappers).mpr hrefers) (by decide)⟩

/-- an option whose value goes on behind the name of the package -/
def openText : String :=
  "option go_package = \"p\\nimport \\\"fmt\\\"\"; message M \x7b string s = 1; \x7d"

def openSchema : SchemaSet where
  root := { File.empty "a.proto" with
    options := [⟨"go_package", "p\nimport \"fmt\""⟩]
    messages := [⟨"M", ⟨1, 50⟩, [⟨"s", ⟨1, 61⟩, .named "string", 1, .plain, [], .all⟩], [], .all⟩] }
  imports := []

def openUnit : LoaderUnit where
  source := "a.proto"
  procedures := [⟨"M", [.scalar ⟨"s", "S"⟩ .string]⟩]

/-- A package is imported that nothing in the file refers to. -/
theorem go_imports_unused :
    (∀ file ∈ openSchema.files, ∃ name text, File.compile name text = .ok file) ∧
    LoaderUnit.emit openSchema ⟨"go"⟩ = .ok openUnit ∧
    GoFile.imports? (GoCode.loaders openUnit (GoCode.moduleName openSchema.root)).toList =
      some [⟨"", "fmt"⟩] ∧
    ¬ openUnit.GoRefersTo .fmt ∧
    ¬ openUnit.GoImportsExact (GoCode.loaders openUnit (GoCode.moduleName openSchema.root)) := by
  have hparsed : ∀ file ∈ openSchema.files, ∃ name text, File.compile name text = .ok file := by
    intro file hfile
    obtain rfl := List.mem_singleton.mp hfile
    exact ⟨"a.proto", openText, (File.compile_ofList _ _).trans (by decide +kernel)⟩
  have hemit : LoaderUnit.emit openSchema ⟨"go"⟩ = .ok openUnit := by decide +kernel
  have hnamed : ∀ p ∈ openUnit.procedures, ∀ s ∈ p.statements, s.WellNamed :=
    fun p hp s hs => LoaderUnit.wellNamed hparsed hemit hp hs
  have hmodule : GoCode.moduleName openSchema.root = "p\nimport \"fmt\"" := by decide +kernel
  have hopening : GoFile.opening? (GoCode.header openUnit.source "p\nimport \"fmt\"").toList =
      some [⟨"", "fmt"⟩] := by decide +kernel
  have hunused : ¬ openUnit.GoRefersTo .fmt := by
    rw [← GoCode.mem_usedPackages_iff hnamed]
    decide
  rw [hmodule, GoCode.goImportsExact_iff hnamed hopening]
  refine ⟨hparsed, hemit, GoCode.imports?_loaders hopening, hunused, ?_⟩
  exact fun hnone => absurd (hnone .fmt) (by decide)

end EnvConfig
