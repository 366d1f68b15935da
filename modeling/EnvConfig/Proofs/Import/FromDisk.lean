import EnvConfig.CommandLine.Run
import EnvConfig.Proofs.Files.Beside
import EnvConfig.Proofs.Import.BreadthFirst

/-!
# Imports from a disk

A schema that is loaded from a disk comes with everything that its files import, each module as it
is found under the root of imports, except for one name: the root is known by the name of its file,
without its directory, and an import of this name means the root wherever imports are looked for.
In the directory of the schema that is the same file.  Under another root of imports it need not be,
and a module of this name is then left out.

* `Disk.Brings`: the file that an import brings;
* `SchemaSet.of_load`: the files of a loaded schema and their imports;
* `SchemaSet.brings_root`: in its own directory the root is what its name brings;
* `SchemaSet.import_brought_iff`: which imports are there.
-/

namespace EnvConfig

open Relation

/-! ### what an import brings -/

theorem of_toOption {ε α : Type} {e : Except ε α} {a : α} (h : e.toOption = some a) :
    e = .ok a := by
  cases e with
  | error e => cases h
  | ok b => rw [Option.some.inj h]

theorem FileTree.disk_read (tree : FileTree) : tree.disk.read = tree.read := rfl

namespace Disk

/-- The text that an import of `module` means: that of the file at its path under `root`, or the
built-in one if this file cannot be opened. -/
inductive Provides (disk : Disk) (root module text : String) : Prop
  | file {bytes : List UInt8} (hread : disk.read (Path.ofModule root module) = .ok bytes)
      (htext : textOf bytes = .ok text)
  | builtin {reason : AccessError} (hread : disk.read (Path.ofModule root module) = .error reason)
      (hopening : reason.atOpening = true) (htext : Builtin.text? module = some text)

/-- the file of the text that an import of `module` means -/
def Brings (disk : Disk) (root module : String) (f : File) : Prop :=
  ∃ text, disk.Provides root module text ∧ File.compile module text = .ok f

variable {disk : Disk} {root module text : String} {f : File}

theorem fetch_eq_ok_iff : disk.fetch root module = .ok text ↔ disk.Provides root module text := by
  unfold fetch
  constructor
  · intro h
    split at h
    · rename_i bytes hread
      exact .file hread h
    · rename_i reason hread
      split at h
      · rename_i hopening
        split at h
        · rename_i builtin hbuiltin
          cases h
          exact .builtin hread hopening hbuiltin
        · cases h
      · cases h
  · rintro (⟨hread, htext⟩ | ⟨hread, hopening, htext⟩)
    · rw [hread]
      exact htext
    · rw [hread]
      simp only [hopening, htext, if_true]

theorem readText_eq_ok_iff {path : String} :
    disk.readText path = .ok text ↔
      ∃ bytes, disk.read path = .ok bytes ∧ textOf bytes = .ok text := by
  unfold readText
  cases disk.read path <;> simp [Except.bind]

theorem brings_iff : disk.Brings root module f ↔ (disk.library root).read module = .ok f := by
  rw [Library.read_eq_ok_iff]
  exact exists_congr fun text => and_congr_left fun _ => fetch_eq_ok_iff.symm

end Disk

namespace SchemaSet

/-! ### the files of a loaded schema -/

/-- What is loaded has one file for each name, the root under its own name and the others as the
library has them, and a file for every import. -/
theorem of_load {lib : Library} {name text : String} {set : SchemaSet}
    (h : load name text lib = .ok set) :
    File.compile name text = .ok set.root ∧ (set.files.map (·.name)).Nodup ∧
      (∀ f ∈ set.files, f.name ≠ name → lib.read f.name = .ok f) ∧
      ∀ f ∈ set.files, ∀ p ∈ f.importPaths, ∃ g ∈ set.files, g.name = p := by
  obtain ⟨order, hsettled⟩ := exists_settled name (lib.rooted name text).importsOf_subset
  have hload := SchemaSet.load_eq hsettled
  rw [h] at hload
  obtain ⟨hnames, hreads⟩ :=
    Library.forall₂_read_iff.mp (mapM_eq_ok_iff.mp hload.symm)
  refine ⟨?_, hnames ▸ hsettled.nodup, fun f hf hne => ?_, fun f hf p hp => ?_⟩
  · have hroot : set.root.name = name := (List.cons.inj hnames).1
    have hread := hreads set.root List.mem_cons_self
    rw [hroot, Library.read_rooted_self] at hread
    cases hcompile : File.compile name text with
    | error e =>
      rw [hcompile] at hread
      cases hread
    | ok root =>
      rw [hcompile] at hread
      cases hread
      rfl
  · rw [← Library.read_rooted_of_ne hne]
    exact hreads f hf
  · have hreach := (hsettled.mem_iff f.name).mp (hnames ▸ List.mem_map_of_mem hf)
    have himport : p ∈ (lib.rooted name text).importsOf f.name := by
      rw [Library.importsOf_of_read (hreads f hf)]
      exact hp
    have hmem := (hsettled.mem_iff p).mpr (hreach.tail himport)
    rw [← hnames] at hmem
    exact List.mem_map.mp hmem

theorem eq_of_name {set : SchemaSet} {f g : File} (h : (set.files.map (·.name)).Nodup)
    (hf : f ∈ set.files) (hg : g ∈ set.files) (hname : f.name = g.name) : f = g :=
  List.inj_on_of_nodup_map h hf hg hname

/-! ### schemas from a disk -/

variable {schema : String} {protoPath : Option String} {set : SchemaSet}

theorem ofDisk_eq_ok_iff {disk : Disk} :
    ofDisk disk schema protoPath = .ok set ↔
      ∃ text, disk.readText schema = .ok text ∧
        load (Path.fileName schema) text (disk.library (importRoot schema protoPath)) =
          .ok set := by
  unfold ofDisk
  cases disk.readText schema with
  | error reason => simp
  | ok text =>
    cases hload : load (Path.fileName schema) text (disk.library (importRoot schema protoPath)) <;>
      simp [Except.mapError, hload]

theorem importRoot_none (schema : String) : importRoot schema none = Path.directory schema := rfl

/-- Without a root of imports they are looked for in the directory of the schema, and there the
schema is what its name brings. -/
theorem brings_root {tree : FileTree} (h : ofDisk tree.disk schema none = .ok set) :
    tree.disk.Brings (importRoot schema none) (Path.fileName schema) set.root := by
  obtain ⟨text, htext, hload⟩ := ofDisk_eq_ok_iff.mp h
  obtain ⟨bytes, hread, htext⟩ := Disk.readText_eq_ok_iff.mp htext
  rw [FileTree.disk_read] at hread
  refine ⟨text, .file ?_ htext, (of_load hload).1⟩
  rw [importRoot_none, FileTree.disk_read]
  exact FileTree.read_beside hread

/-- What a file of the schema imports under `p` is among the files of the schema, exactly if `p` is
not the name of the root, or imports are looked for in the directory of the schema, or the root is
just what this name brings. -/
theorem import_brought_iff {tree : FileTree} (h : ofDisk tree.disk schema protoPath = .ok set)
    {f : File} (hf : f ∈ set.files) {p : String} (hp : p ∈ f.importPaths) :
    (∃ g ∈ set.files, tree.disk.Brings (importRoot schema protoPath) p g) ↔
      (p = Path.fileName schema →
        protoPath = none ∨ tree.disk.Brings (importRoot schema protoPath) p set.root) := by
  obtain ⟨text, htext, hload⟩ := ofDisk_eq_ok_iff.mp h
  obtain ⟨hroot, hnodup, hreads, himports⟩ := of_load hload
  have hname : set.root.name = Path.fileName schema := File.name_of_compile hroot
  constructor
  · rintro ⟨g, hg, hbrings⟩ rfl
    have hgname : g.name = Path.fileName schema := Library.name_of_read (Disk.brings_iff.mp hbrings)
    rw [eq_of_name hnodup List.mem_cons_self hg (hname.trans hgname.symm)]
    exact .inr hbrings
  · intro hbrought
    by_cases hpname : p = Path.fileName schema
    · refine ⟨set.root, List.mem_cons_self, ?_⟩
      rcases hbrought hpname with rfl | hbrings
      · rw [hpname]
        exact brings_root h
      · exact hbrings
    · obtain ⟨g, hg, rfl⟩ := himports f hf p hp
      exact ⟨g, hg, Disk.brings_iff.mpr (hreads g hg hpname)⟩

/-! ### examples -/

/-- the file that imports `path` and declares nothing -/
def importing (name path : String) : File :=
  { File.empty name with imports := [⟨path, .ordinary⟩] }

/-- two files of one directory that import each other -/
def besideTree : FileTree where
  here := []
  directories := [["d"]]
  files := [(["d", "a.proto"], "import \"b.proto\";".toUTF8.toList),
    (["d", "b.proto"], "import \"a.proto\";".toUTF8.toList)]

/-- a root and a module that import each other -/
theorem load_of_mutual {name text other : String} {lib : Library} {root f : File}
    (hroot : File.compile name text = .ok root) (himports : root.importPaths = [other])
    (hne : other ≠ name) (hread : lib.read other = .ok f) (hback : f.importPaths = [name]) :
    load name text lib = .ok ⟨root, [f]⟩ := by
  have hunseen : other ∉ [name] := by simpa using hne
  obtain ⟨known, hload⟩ := load_of_compile lib hroot
  generalize root.importPaths = first at known hload himports
  subst himports
  obtain ⟨known', hstep⟩ := Library.loadQueue_of_read known hunseen hread
  rw [hload, hstep]
  simp [hback, Library.loadQueue]
  rfl

theorem ofDisk_besideTree : ofDisk besideTree.disk "d/./a.proto" none =
    .ok ⟨importing "a.proto" "b.proto", [importing "b.proto" "a.proto"]⟩ := by
  rw [ofDisk_eq_ok_iff]
  refine ⟨"import \"b.proto\";", of_toOption (by decide +kernel), ?_⟩
  have hfile : Path.fileName "d/./a.proto" = "a.proto" := by decide +kernel
  have hroot : File.compile "a.proto" "import \"b.proto\";" = .ok (importing "a.proto" "b.proto") :=
    of_toOption (by decide +kernel)
  have hread : (besideTree.disk.library (importRoot "d/./a.proto" none)).read "b.proto" =
      .ok (importing "b.proto" "a.proto") := of_toOption (by decide +kernel)
  rw [hfile]
  exact load_of_mutual hroot rfl (by decide) hread rfl

theorem import_brought_besideTree :
    ofDisk besideTree.disk "d/./a.proto" none =
        .ok ⟨importing "a.proto" "b.proto", [importing "b.proto" "a.proto"]⟩ ∧
      ∃ g ∈ [importing "a.proto" "b.proto", importing "b.proto" "a.proto"],
        besideTree.disk.Brings (importRoot "d/./a.proto" none) "a.proto" g :=
  ⟨ofDisk_besideTree, (import_brought_iff ofDisk_besideTree
    (List.mem_cons_of_mem _ List.mem_cons_self) List.mem_cons_self).mpr fun _ => .inl rfl⟩

/-- a file whose import has its own name in the directory of imports -/
def shadowedTree : FileTree where
  here := []
  directories := [["d"], ["inc"]]
  files := [(["d", "a.proto"], "import \"a.proto\";".toUTF8.toList),
    (["inc", "a.proto"], "message B \x7b string s = 1; \x7d".toUTF8.toList)]

/-- a root that imports its own name -/
theorem load_of_self {name text : String} {lib : Library} {root : File}
    (hroot : File.compile name text = .ok root) (himports : root.importPaths = [name]) :
    load name text lib = .ok ⟨root, []⟩ := by
  obtain ⟨known, hload⟩ := load_of_compile lib hroot
  generalize root.importPaths = first at known hload himports
  subst himports
  rw [hload]
  simp [Library.loadQueue]
  rfl

theorem ofDisk_shadowedTree : ofDisk shadowedTree.disk "d/a.proto" (some "inc") =
    .ok ⟨importing "a.proto" "a.proto", []⟩ := by
  rw [ofDisk_eq_ok_iff]
  refine ⟨"import \"a.proto\";", of_toOption (by decide +kernel), ?_⟩
  have hfile : Path.fileName "d/a.proto" = "a.proto" := by decide +kernel
  have hroot : File.compile "a.proto" "import \"a.proto\";" = .ok (importing "a.proto" "a.proto") :=
    of_toOption (by decide +kernel)
  rw [hfile]
  exact load_of_self hroot rfl

/-- the import that means the file in the directory of imports is not there under any name -/
theorem import_dropped :
    ¬ ∀ (tree : FileTree) (schema : String) (protoPath : Option String) (set : SchemaSet),
      ofDisk tree.disk schema protoPath = .ok set →
        ∀ f ∈ set.files, ∀ p ∈ f.importPaths, ∃ g ∈ set.files, ∃ name text,
          tree.disk.Provides (importRoot schema protoPath) p text ∧
            File.compile name text = .ok g := by
  intro hclaim
  obtain ⟨g, hg, name, text, hprovides, hcompile⟩ := hclaim _ _ _ _ ofDisk_shadowedTree
    _ List.mem_cons_self "a.proto" List.mem_cons_self
  have hg : g = importing "a.proto" "a.proto" := List.mem_singleton.mp hg
  have hfetch : shadowedTree.disk.fetch (importRoot "d/a.proto" (some "inc")) "a.proto" =
      .ok "message B \x7b string s = 1; \x7d" := of_toOption (by decide +kernel)
  rw [Disk.fetch_eq_ok_iff.mpr hprovides, Except.ok.injEq] at hfetch
  subst hfetch
  have himports : (File.compile "" "message B \x7b string s = 1; \x7d").toOption.map File.imports =
      some [] := by decide +kernel
  obtain ⟨f, hf, hsame⟩ := File.imports_of_compile "" hcompile
  rw [hf] at himports
  have hnone : f.imports = [] := Option.some.inj himports
  rw [hsame, hg] at hnone
  cases hnone

end SchemaSet

end EnvConfig
